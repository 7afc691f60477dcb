import FeedSync.Config
import FeedSync.Proofs.Text.Digits
import FeedSync.Proofs.Text.Percent
import FeedSync.Url
import Mathlib.Data.List.TakeWhile

/-!
# What the composed address of a database says

The address of a database may be composed of its configured parts. The parts are put in as they are,
without percent-encoding; so the address says what was configured only where user and password hold
nothing that has a meaning in addresses. What an address says is told by the general syntax of
addresses alone, whatever the scheme.

## Main definitions

* `AddressParts.ofText?` — what an address says.
* `StandsInUser`, `StandsInPassword` — the texts that keep their meaning where they are put in.
* `Plain` — texts without the characters that have a meaning in addresses.

## Main statements

* `AddressParts.length_le` — user and password come from within the authority.
* `composed_url_says_parts_iff` — when the composed address says what was configured.
-/

namespace FeedSync.Database

open Text

/-! ### The general syntax of addresses -/

/-- What an address says about its server: a part is missing if the address does not have it, or if
its octets are no text. -/
structure AddressParts where
  user : Option String
  password : Option String
  host : Option String
  port : Option Nat
  database : Option String
  deriving DecidableEq

/-- A character that ends the authority of an address. -/
def endsAuthority (c : Char) : Bool := c == '/' || c == '?' || c == '#'

/-- A character that ends the path of an address. -/
def endsPath (c : Char) : Bool := c == '?' || c == '#'

/-- The text that a part of an address stands for. -/
def partText? (cs : List Char) : Option String := String.fromUTF8? (percentDecode cs).toByteArray

/-- The number that a port is. -/
def portNumber? (cs : List Char) : Option Nat :=
  if !cs.isEmpty && cs.all Char.isDigit then some (digitsValue cs) else none

/-- What an authority and the path after it say: the user information stands before the last `@`,
the user before the first `:` of it, and the port after the last `:` of what is left. -/
def AddressParts.ofAuthority (authority path : List Char) : AddressParts :=
  let (info, place) : Option (List Char) × List Char :=
    match Url.atLast '@' authority with
    | some (info, place) => (some info, place)
    | none => (none, authority)
  let (host, port) : List Char × Option (List Char) :=
    match Url.atLast ':' place with
    | some (host, port) => (host, some port)
    | none => (place, none)
  { user := info.bind fun info => partText? (Url.atFirst ':' info).1
    password := info.bind fun info => (Url.atFirst ':' info).2.bind partText?
    host := partText? host
    port := port.bind portNumber?
    database := partText? (path.drop 1) }

/-- **What an address says**: after the scheme and two slashes comes the authority, which ends at
the first slash, question mark or number sign, and then the path. -/
def AddressParts.ofText? (text : String) : Option AddressParts :=
  match Url.atFirst ':' text.toList with
  | (_, some ('/' :: '/' :: rest)) =>
    some (.ofAuthority (rest.takeWhile fun c => !endsAuthority c)
      ((rest.dropWhile fun c => !endsAuthority c).takeWhile fun c => !endsPath c))
  | _ => none

/-! ### Splitting at a character -/

/-- The first occurrence of a character. -/
theorem atFirst_append {c : Char} {front : List Char} (h : c ∉ front) (back : List Char) :
    Url.atFirst c (front ++ c :: back) = (front, some back) := by
  have hfront : ∀ x ∈ front, (x != c) = true := fun x hx => bne_iff_ne.mpr fun heq => h (heq ▸ hx)
  rw [Url.atFirst, List.dropWhile_append_of_pos hfront, List.takeWhile_append_of_pos hfront]
  simp

/-- What stands before and after the first occurrence of a character makes up the text. -/
theorem eq_of_atFirst {c : Char} {cs front back : List Char}
    (h : Url.atFirst c cs = (front, some back)) : cs = front ++ c :: back ∧ c ∉ front := by
  rw [Url.atFirst] at h
  split at h
  · next x rest hrest =>
      obtain ⟨rfl, rfl⟩ := Prod.mk.inj h |>.imp_right Option.some.inj
      have hx : x = c := by
        have := List.head?_dropWhile_not (· != c) cs
        rw [hrest] at this
        simpa using this
      refine ⟨?_, fun hmem => ?_⟩
      · rw [← hx, ← hrest, hx, List.takeWhile_append_dropWhile]
      · simpa using List.mem_takeWhile_imp hmem
  · nomatch h

/-- The last occurrence of a character. -/
theorem atLast_append {c : Char} {back : List Char} (front : List Char) (h : c ∉ back) :
    Url.atLast c (front ++ c :: back) = some (front, back) := by
  have hback : ∀ x ∈ back.reverse, (x != c) = true := fun x hx =>
    bne_iff_ne.mpr fun heq => h (heq ▸ List.mem_reverse.mp hx)
  have htake : (front ++ c :: back).reverse.takeWhile (· != c) = back.reverse := by
    rw [List.reverse_append, List.reverse_cons, List.append_assoc,
      List.takeWhile_append_of_pos hback]
    simp
  have hlength : (front ++ c :: back).length = front.length + back.length + 1 := by
    rw [List.length_append, List.length_cons, Nat.add_assoc]
  rw [Url.atLast, htake, List.length_reverse, hlength, if_pos (by omega), List.reverse_reverse,
    List.take_left' (by omega)]

/-- Without an occurrence of a character there is no last one. -/
theorem atLast_eq_none {c : Char} {cs : List Char} (h : c ∉ cs) : Url.atLast c cs = none := by
  have hall : ∀ x ∈ cs.reverse, (x != c) = true := fun x hx =>
    bne_iff_ne.mpr fun heq => h (heq ▸ List.mem_reverse.mp hx)
  rw [Url.atLast, List.takeWhile_eq_self_iff.mpr hall, List.length_reverse,
    if_neg (Nat.lt_irrefl _)]

/-- What stands before and after the last occurrence of a character makes up the text. -/
theorem eq_of_atLast {c : Char} {cs front back : List Char}
    (h : Url.atLast c cs = some (front, back)) : cs = front ++ c :: back := by
  by_cases hmem : c ∈ cs
  · obtain ⟨back', front', hcs, hback'⟩ := List.eq_append_cons_of_mem (List.mem_reverse.mpr hmem)
    have hsplit : cs = front'.reverse ++ c :: back'.reverse := by
      rw [← List.reverse_inj, hcs]
      simp
    rw [hsplit, atLast_append _ fun hmem => hback' (List.mem_reverse.mp hmem)] at h
    obtain ⟨rfl, rfl⟩ := Prod.mk.inj (Option.some.inj h)
    exact hsplit
  · rw [atLast_eq_none hmem] at h
    nomatch h

/-! ### What the parts of an address can hold -/

/-- The parts that stand for a text are those whose octets are those of the text. -/
theorem partText?_eq_some {cs : List Char} {s : String} :
    partText? cs = some s ↔ percentDecode cs = octets s.toList :=
  fromUTF8?_toByteArray_iff

/-- A part stands for its own text exactly if it holds no escape. -/
theorem partText?_toList {s : String} :
    partText? s.toList = some s ↔ hasEscape s.toList = false :=
  partText?_eq_some.trans percentDecode_eq_octets_iff

/-- A part has at least as many octets as the text it stands for. -/
theorem length_octets_of_partText? {cs : List Char} {s : String} (h : partText? cs = some s) :
    (octets s.toList).length ≤ (octets cs).length :=
  partText?_eq_some.mp h ▸ length_percentDecode_le cs

/-- **User and password come from within the authority**, which has two more octets for the colon
between them and the sign after them. -/
theorem AddressParts.length_le {authority path : List Char} {user password : String}
    (huser : (ofAuthority authority path).user = some user)
    (hpassword : (ofAuthority authority path).password = some password) :
    (octets user.toList).length + (octets password.toList).length + 2 ≤
      (octets authority).length := by
  unfold ofAuthority at huser hpassword
  cases hinfo : Url.atLast '@' authority with
  | none => simp [hinfo] at huser
  | some split =>
      obtain ⟨info, place⟩ := split
      simp only [hinfo, Option.bind_some] at huser hpassword
      obtain ⟨written, hwritten, hpassword⟩ := Option.bind_eq_some_iff.mp hpassword
      have hsplit := (eq_of_atFirst (Prod.ext rfl hwritten)).1
      have hpos₁ := length_octets_cons '@' place
      have hpos₂ := length_octets_cons ':' written
      have := length_octets_of_partText? huser
      have := length_octets_of_partText? hpassword
      have hauthority : octets authority = octets info ++ octets ('@' :: place) := by
        rw [eq_of_atLast hinfo, octets_append]
      have hinfo : octets info =
          octets (Url.atFirst ':' info).1 ++ octets (':' :: written) := by
        rw [← octets_append, ← hsplit]
      rw [hauthority, hinfo, List.length_append, List.length_append]
      omega

/-! ### Composed addresses -/

/-- A text without the characters that have a meaning in addresses, such as one of letters, digits,
hyphens, underscores and dots. -/
abbrev Plain (cs : List Char) : Prop := ∀ c ∈ cs, c ∉ "/?#@:%".toList

/-- A text that keeps its meaning where a password is put in: nothing in it ends the authority, and
nothing in it is an escape. -/
abbrev StandsInPassword (s : String) : Prop :=
  (∀ c ∈ s.toList, endsAuthority c = false) ∧ hasEscape s.toList = false

/-- A text that keeps its meaning where a user is put in: no colon in it ends the user. -/
abbrev StandsInUser (s : String) : Prop := StandsInPassword s ∧ ':' ∉ s.toList

theorem Plain.not_mem {cs : List Char} (h : Plain cs) {c : Char} (hc : c ∈ "/?#@:%".toList) :
    c ∉ cs := fun hmem => h c hmem hc

theorem Plain.endsAuthority {cs : List Char} (h : Plain cs) :
    ∀ c ∈ cs, Database.endsAuthority c = false := by
  intro c hc
  have hslash : c ≠ '/' := fun heq => h.not_mem (by decide) (heq ▸ hc)
  have hquestion : c ≠ '?' := fun heq => h.not_mem (by decide) (heq ▸ hc)
  have hnumber : c ≠ '#' := fun heq => h.not_mem (by decide) (heq ▸ hc)
  simp [Database.endsAuthority, hslash, hquestion, hnumber]

/-- What ends a path ends an authority. -/
theorem endsPath_eq_false {c : Char} (h : endsAuthority c = false) : endsPath c = false := by
  rw [endsAuthority, Bool.or_assoc] at h
  exact (Bool.or_eq_false_iff.mp h).2

/-- A plain text stands for itself. -/
theorem partText?_of_plain {s : String} (h : Plain s.toList) : partText? s.toList = some s :=
  partText?_toList.mpr (hasEscape_eq_false (h.not_mem (by decide)))

theorem plain_decimal (n : Nat) : Plain (decimal n) := by
  intro c hc hreserved
  have hdigit : ∀ c ∈ "/?#@:%".toList, c.isDigit = false := by simp
  exact Bool.false_ne_true ((hdigit c hreserved).symm.trans (allDigits_decimal n c hc))

/-- A written port is a port. -/
theorem portNumber?_decimal (n : Nat) : portNumber? (decimal n) = some n := by
  rw [portNumber?, List.all_eq_true.mpr (allDigits_decimal n), digitsValue_decimal]
  simp [decimal_ne_nil]

section Composed

variable {db : DatabaseConfig} {env : Environment}

/-- The user information of a composed address. -/
def userInfo (db : DatabaseConfig) : List Char := db.user.toList ++ ':' :: db.password.toList

/-- The host and port of a composed address. -/
def place (db : DatabaseConfig) : List Char := db.host.toList ++ ':' :: decimal db.port

/-- What follows the scheme and two slashes in a composed address. -/
def afterScheme (db : DatabaseConfig) : List Char :=
  userInfo db ++ '@' :: (place db ++ '/' :: (db.database.toList ++
    "?sslmode=".toList ++ db.sslMode.toList))

/-- The address is the composed one where no other is given. -/
theorem connectionUrl_eq_composedUrl (henv : (env "DATABASE_URL").getD "" = "")
    (hurl : db.url.getD "" = "") : db.connectionUrl env = db.composedUrl := by
  rw [DatabaseConfig.connectionUrl, List.find?_eq_none.mpr, Option.getD_none]
  intro given hgiven
  obtain ⟨source, hsource, rfl⟩ := List.mem_filterMap.mp hgiven
  have hempty : given = "" := by
    rcases List.mem_cons.mp hsource with heq | hsource
    · simpa [← heq] using henv
    · simpa [← List.mem_singleton.mp hsource] using hurl
  simp [hempty]

/-- What the composed address consists of. -/
theorem composedUrl_toList (huser : db.user ≠ "") (hpassword : db.password ≠ "") :
    db.composedUrl.toList = "postgres".toList ++ ':' :: '/' :: '/' :: afterScheme db := by
  have hstart : "postgres://".toList = "postgres".toList ++ [':', '/', '/'] := by decide
  have hcolon : ":".toList = [':'] := by decide
  have hat : "@".toList = ['@'] := by decide
  have hslash : "/".toList = ['/'] := by decide
  have hurl : db.composedUrl = "postgres://" ++ (db.user ++ ":" ++ db.password ++ "@") ++ db.host ++
      ":" ++ toString db.port ++ "/" ++ db.database ++ "?sslmode=" ++ db.sslMode := by
    have huser : db.user.isEmpty = false := by simpa using huser
    have hpassword : db.password.isEmpty = false := by simpa using hpassword
    unfold DatabaseConfig.composedUrl
    rw [huser, hpassword]
    rfl
  rw [hurl]
  simp only [String.toList_append, toList_toString, hstart, hcolon, hat, hslash, afterScheme,
    userInfo, place, List.append_assoc, List.cons_append, List.nil_append]

/-- The authority and the path of an address are told from what follows the scheme. -/
theorem ofText?_eq {text : String} {rest : List Char}
    (h : text.toList = "postgres".toList ++ ':' :: '/' :: '/' :: rest) :
    AddressParts.ofText? text =
      some (.ofAuthority (rest.takeWhile fun c => !endsAuthority c)
        ((rest.dropWhile fun c => !endsAuthority c).takeWhile fun c => !endsPath c)) := by
  rw [AddressParts.ofText?, h, atFirst_append (by decide)]
  rfl

/-- **What the composed address says** where nothing in the credentials ends the authority. -/
theorem ofAuthority_afterScheme (hhost : Plain db.host.toList)
    (hdatabase : Plain db.database.toList) (hinfo : ∀ c ∈ userInfo db, endsAuthority c = false) :
    AddressParts.ofAuthority ((afterScheme db).takeWhile fun c => !endsAuthority c)
        (((afterScheme db).dropWhile fun c => !endsAuthority c).takeWhile fun c => !endsPath c) =
      { user := partText? (Url.atFirst ':' (userInfo db)).1
        password := (Url.atFirst ':' (userInfo db)).2.bind partText?
        host := some db.host
        port := some db.port
        database := some db.database } := by
  have hport := plain_decimal db.port
  have hauthority : ∀ c ∈ userInfo db ++ '@' :: place db, (!endsAuthority c) = true := by
    intro c hc
    rw [Bool.not_eq_true']
    rcases List.mem_append.mp hc with hc | hc
    · exact hinfo c hc
    · rcases List.mem_cons.mp hc with rfl | hc
      · rfl
      · rcases List.mem_append.mp hc with hc | hc
        · exact hhost.endsAuthority c hc
        · rcases List.mem_cons.mp hc with rfl | hc
          · rfl
          · exact hport.endsAuthority c hc
  have hpath : ∀ c ∈ '/' :: db.database.toList, (!endsPath c) = true := by
    intro c hc
    rw [Bool.not_eq_true']
    rcases List.mem_cons.mp hc with rfl | hc
    · rfl
    · exact endsPath_eq_false (hdatabase.endsAuthority c hc)
  have hsplit : afterScheme db = (userInfo db ++ '@' :: place db) ++
      ('/' :: db.database.toList ++ '?' :: ("sslmode=".toList ++ db.sslMode.toList)) := by
    have hquery : "?sslmode=".toList = '?' :: "sslmode=".toList := by decide
    simp only [afterScheme, hquery, List.append_assoc, List.cons_append]
  have htake : (afterScheme db).takeWhile (fun c => !endsAuthority c) =
      userInfo db ++ '@' :: place db := by
    rw [hsplit, List.takeWhile_append_of_pos hauthority]
    exact List.append_nil _
  have hdrop : ((afterScheme db).dropWhile fun c => !endsAuthority c).takeWhile
      (fun c => !endsPath c) = '/' :: db.database.toList := by
    rw [hsplit, List.dropWhile_append_of_pos hauthority]
    change (('/' :: db.database.toList) ++ _).takeWhile _ = _
    rw [List.takeWhile_append_of_pos hpath]
    exact List.append_nil _
  have hat : Url.atLast '@' (userInfo db ++ '@' :: place db) = some (userInfo db, place db) := by
    refine atLast_append _ fun hmem => ?_
    rcases List.mem_append.mp hmem with hmem | hmem
    · exact hhost.not_mem (by decide) hmem
    · exact hport.not_mem (by decide) (List.mem_of_ne_of_mem (by decide) hmem)
  have hcolon : Url.atLast ':' (place db) = some (db.host.toList, decimal db.port) :=
    atLast_append _ (hport.not_mem (by decide))
  rw [htake, hdrop]
  simp only [AddressParts.ofAuthority, hat, hcolon, Option.bind_some, portNumber?_decimal,
    partText?_of_plain hhost, List.drop_succ_cons, List.drop_zero, partText?_of_plain hdatabase]

/-- The user is told right only if no colon in it ends it. -/
theorem user_of_userInfo (h : partText? (Url.atFirst ':' (userInfo db)).1 = some db.user) :
    ':' ∉ db.user.toList := by
  intro hmem
  obtain ⟨front, back, huser, hfront⟩ := List.eq_append_cons_of_mem hmem
  rw [userInfo, huser, List.append_assoc, List.cons_append, atFirst_append hfront] at h
  have hle := length_octets_of_partText? h
  have hlt := length_octets_cons ':' back
  simp only [huser, octets_append, List.length_append] at hle
  omega

/-- An end of the authority in the credentials leaves the authority too short to say them. -/
theorem endsAuthority_of_said {path : List Char}
    (huser : (AddressParts.ofAuthority ((afterScheme db).takeWhile fun c => !endsAuthority c)
      path).user = some db.user)
    (hpassword : (AddressParts.ofAuthority ((afterScheme db).takeWhile fun c => !endsAuthority c)
      path).password = some db.password) : ∀ c ∈ userInfo db, endsAuthority c = false := by
  have hle := AddressParts.length_le huser hpassword
  rw [afterScheme, List.takeWhile_append] at hle
  split at hle
  · next hall =>
      intro c hc
      have heq := (List.takeWhile_prefix _).eq_of_length hall
      simpa using List.takeWhile_eq_self_iff.mp heq c hc
  · obtain ⟨rest, hrest⟩ := List.takeWhile_prefix (l := userInfo db) fun c => !endsAuthority c
    have hinfo := congrArg (fun cs => (octets cs).length) hrest
    have hsign : (octets (':' :: db.password.toList)).length =
        (octets db.password.toList).length + 1 := by
      rw [octets_cons, List.length_append, octets_singleton, Nat.add_comm]
      rfl
    simp only [userInfo, octets_append, List.length_append, hsign] at hinfo
    simp only [userInfo] at hle
    omega

/-- **The composed address says what was configured** exactly where user and password keep their
meaning as they are put in. -/
theorem composed_url_says_parts_iff (db : DatabaseConfig) (env : Environment)
    (henv : (env "DATABASE_URL").getD "" = "") (hurl : db.url.getD "" = "")
    (huser : db.user ≠ "") (hpassword : db.password ≠ "")
    (hhost : Plain db.host.toList) (hdatabase : Plain db.database.toList) :
    AddressParts.ofText? (db.connectionUrl env) =
        some ⟨db.user, db.password, db.host, db.port, db.database⟩ ↔
      StandsInUser db.user ∧ StandsInPassword db.password := by
  rw [connectionUrl_eq_composedUrl henv hurl, ofText?_eq (composedUrl_toList huser hpassword),
    Option.some.injEq]
  constructor
  · intro hsaid
    have hinfo : ∀ c ∈ userInfo db, endsAuthority c = false :=
      endsAuthority_of_said (congrArg AddressParts.user hsaid)
        (congrArg AddressParts.password hsaid)
    rw [ofAuthority_afterScheme hhost hdatabase hinfo] at hsaid
    have huser' := congrArg AddressParts.user hsaid
    have hpassword' := congrArg AddressParts.password hsaid
    have hcolon := user_of_userInfo huser'
    simp only [userInfo, atFirst_append hcolon, Option.bind_some] at huser' hpassword'
    exact ⟨⟨⟨fun c hc => hinfo c (List.mem_append_left _ hc), partText?_toList.mp huser'⟩, hcolon⟩,
      fun c hc => hinfo c (List.mem_append_right _ (List.mem_cons_of_mem _ hc)),
      partText?_toList.mp hpassword'⟩
  · rintro ⟨⟨⟨husers, huser'⟩, hcolon⟩, hpasswords, hpassword'⟩
    have hinfo : ∀ c ∈ userInfo db, endsAuthority c = false := by
      intro c hc
      rcases List.mem_append.mp hc with hc | hc
      · exact husers c hc
      · rcases List.mem_cons.mp hc with rfl | hc
        · rfl
        · exact hpasswords c hc
    rw [ofAuthority_afterScheme hhost hdatabase hinfo, userInfo, atFirst_append hcolon,
      Option.bind_some, partText?_toList.mpr huser', partText?_toList.mpr hpassword']

end Composed

/-- A configuration with a user and a password. -/
def withCredentials (user password : String) : DatabaseConfig :=
  { host := "db.local"
    port := 5433
    user := user
    password := password
    database := "news"
    sslMode := "disable" }

/-- Signs and colons in a password do no harm, and a lone percent sign does none either; but a slash
cuts the authority off. -/
theorem composed_url_of_slash :
    AddressParts.ofText? ((withCredentials "sync" "p@ss:w%rd").connectionUrl fun _ => none) =
        some ⟨"sync", "p@ss:w%rd", "db.local", some 5433, "news"⟩ ∧
      AddressParts.ofText? ((withCredentials "sync" "a/b").connectionUrl fun _ => some "") ≠
        some ⟨"sync", "a/b", "db.local", some 5433, "news"⟩ := by
  have hhost : Plain "db.local".toList := by simp [Plain]
  have hdatabase : Plain "news".toList := by simp [Plain]
  have hstands : StandsInUser "sync" ∧ StandsInPassword "p@ss:w%rd" :=
    ⟨⟨⟨by simp [endsAuthority], by decide⟩, by decide⟩, by simp [endsAuthority], by decide⟩
  refine ⟨(composed_url_says_parts_iff (withCredentials "sync" "p@ss:w%rd") (fun _ => none) rfl rfl
      (by decide) (by decide) hhost hdatabase).mpr hstands,
    mt (composed_url_says_parts_iff (withCredentials "sync" "a/b") (fun _ => some "") rfl rfl
      (by decide) (by decide) hhost hdatabase).mp fun h => ?_⟩
  have hslash : endsAuthority '/' = false := h.2.1 '/' (by simp [withCredentials])
  exact absurd hslash (by decide)

end FeedSync.Database
