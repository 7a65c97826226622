import Gateway.Text.Ascii

/-!
# Methods and protocol versions
-/

namespace Gateway

/-- A request method: a token that is not empty. -/
structure Method where
  text : String
  valid : text ≠ "" ∧ text.toList.all isTokenChar = true
deriving DecidableEq

namespace Method

/-- The method of a token. -/
def ofString? (s : String) : Option Method :=
  if h : s ≠ "" ∧ s.toList.all isTokenChar = true then some ⟨s, h⟩ else none

def get : Method := ⟨"GET", by decide⟩

instance : Inhabited Method := ⟨get⟩

end Method

/-- The protocol version a request came with. -/
inductive Version where
  | http09
  | http10
  | http11
  | http2
  | http3
deriving Repr, DecidableEq, Inhabited

namespace Version

def text : Version → String
  | http09 => "HTTP/0.9"
  | http10 => "HTTP/1.0"
  | http11 => "HTTP/1.1"
  | http2 => "HTTP/2.0"
  | http3 => "HTTP/3.0"

def all : List Version := [http09, http10, http11, http2, http3]

/-- The version a text names. -/
def ofString? (s : String) : Option Version := all.find? (·.text == s)

theorem ofString?_text (v : Version) : ofString? v.text = some v := by cases v <;> decide

end Version

end Gateway
