import Gateway.Text.Ascii

/-!
# Request URIs

A request URI has up to four parts. In origin form (`/path?query`) there is neither scheme nor authority, in absolute
form both; authority form (`host:80`) has no path, and `*` stands for the server itself. A fragment is never kept.
-/

namespace Gateway

/-- A request URI by its parts. The scheme `http` or `https` is in lower case. -/
structure Uri where
  scheme : Option String
  authority : Option String
  path : String
  query : Option String
deriving Repr, DecidableEq, Inhabited

namespace Uri

/-- The path as it is shown: an absolute URI without a path shows `/`. -/
def shownPath (u : Uri) : String :=
  if u.path = "" ∧ u.scheme.isSome then "/" else u.path

/-- The text of a URI. -/
def text (u : Uri) : String :=
  (match u.scheme with | some s => s ++ "://" | none => "")
    ++ u.authority.getD ""
    ++ u.shownPath
    ++ (match u.query with | some q => "?" ++ q | none => "")

/-- Whether the URI names an authority only. -/
def isAuthorityForm (u : Uri) : Bool := u.scheme.isNone && u.authority.isSome

/-- The path and query that routing looks at; `/` where there are none. -/
def pathAndQuery (u : Uri) : String :=
  let raw := u.path ++ (match u.query with | some q => "?" ++ q | none => "")
  if u.isAuthorityForm || raw = "" then "/" else raw

/-- Why a text is no request URI. -/
inductive Flaw where
  | empty
  | tooLong
  | character
  | scheme
  | schemeTooLong
  | authority
  | format
deriving Repr, DecidableEq

/-- The wording of a flaw. -/
def Flaw.message : Flaw → String
  | empty => "empty string"
  | tooLong => "uri too long"
  | character => "invalid uri character"
  | scheme => "invalid scheme"
  | schemeTooLong => "scheme too long"
  | authority => "invalid authority"
  | format => "invalid format"

end Uri

end Gateway
