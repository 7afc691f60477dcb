import FeedSync.Digest.Sha384

/-!
# Migrations

The statements that set up the tables. A migration is known by its version, and its digest tells
whether the text that was applied under a version is still the same.
-/

namespace FeedSync.Database

/-- A step from one form of the tables to the next. -/
structure Migration where
  version : Int64
  sql : String
  deriving DecidableEq, Repr

namespace Migration

/-- The digest of a migration's text, in hexadecimal digits. -/
def digest (m : Migration) : String := Sha384.digest m.sql.toUTF8.toList

/-- The tables of articles, tags and sync states. -/
def createTables : Migration where
  version := 1
  sql := "\n".intercalate [
    "-- 記事",
    "CREATE TABLE IF NOT EXISTS articles (",
    "    id BIGSERIAL PRIMARY KEY,",
    "    source_id TEXT NOT NULL,",
    "    external_id BIGINT NOT NULL,",
    "    title TEXT NOT NULL,",
    "    description TEXT,",
    "    summary TEXT,",
    "    body TEXT,",
    "    author TEXT,",
    "    canonical_url TEXT NOT NULL,",
    "    image_url TEXT,",
    "    published_at TIMESTAMPTZ NOT NULL,",
    "    last_modified TIMESTAMPTZ NOT NULL,",
    "    duration INTEGER NOT NULL DEFAULT 0,",
    "    created_at TIMESTAMPTZ NOT NULL DEFAULT NOW(),",
    "    updated_at TIMESTAMPTZ NOT NULL DEFAULT NOW(),",
    "    UNIQUE (source_id, external_id)",
    ");",
    "",
    "CREATE INDEX IF NOT EXISTS idx_articles_published_at ON articles (published_at);",
    "",
    "-- タグ語彙（全ソース共通）",
    "CREATE TABLE IF NOT EXISTS tags (",
    "    id BIGINT PRIMARY KEY,",
    "    label TEXT NOT NULL",
    ");",
    "",
    "-- 記事とタグの関連",
    "CREATE TABLE IF NOT EXISTS article_tags (",
    "    article_id BIGINT NOT NULL REFERENCES articles (id) ON DELETE CASCADE,",
    "    tag_id BIGINT NOT NULL REFERENCES tags (id),",
    "    PRIMARY KEY (article_id, tag_id)",
    ");",
    "",
    "-- ソースごとの同期状態",
    "CREATE TABLE IF NOT EXISTS sync_state (",
    "    id BIGSERIAL PRIMARY KEY,",
    "    source_id TEXT NOT NULL UNIQUE,",
    "    last_synced_at TIMESTAMPTZ,",
    "    last_article_id BIGINT NOT NULL DEFAULT 0,",
    "    total_synced BIGINT NOT NULL DEFAULT 0",
    ");",
    ""]

/-- All migrations, in the order of their versions. -/
def all : List Migration := [createTables]

end Migration

end FeedSync.Database
