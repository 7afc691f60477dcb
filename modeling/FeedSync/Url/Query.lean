import FeedSync.Url

/-!
# Queries of addresses

The query of an address as a list of settings: pairs of a name and a value, with `&` between them,
in which a plus sign stands for a blank.
-/

namespace FeedSync.Url

open FeedSync.Text

/-- A part of a setting without its encoding. -/
def settingText (cs : List Char) : String :=
  utf8Lenient (percentDecode (cs.map fun c => if c == '+' then ' ' else c))

/-- The setting in a text. -/
def readSetting (cs : List Char) : String × String :=
  let (name, value) := atFirst '=' cs
  (settingText name, settingText (value.getD []))

/-- The settings in the query of an address. -/
def settings (url : Url) : List (String × String) :=
  (((url.query.getD []).splitOn '&').filter (!·.isEmpty)).map readSetting

/-- A part of an address without its encoding; missing if it is no text. -/
def decoded? (cs : List Char) : Option String := utf8? (percentDecode cs)

end FeedSync.Url
