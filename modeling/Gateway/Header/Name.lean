import Gateway.Text.Ascii

/-!
# Field names

A field name is a token in lower case, so that equality of names is equality of texts. The names the gateway itself
deals with are listed here.
-/

namespace Gateway

/-- Tokens in lower case, at most 65535 characters. -/
def isFieldName (cs : List Char) : Bool :=
  !cs.isEmpty && cs.all (fun c => isTokenChar c && lowerChar c == c) && decide (cs.length ≤ 65535)

/-- A field name. -/
structure HeaderName where
  text : String
  valid : isFieldName text.toList = true
deriving DecidableEq

namespace HeaderName

/-- The characters of a name. -/
def chars (n : HeaderName) : List Char := n.text.toList

/-- The name a text spells, in any case; `none` if it spells no name. -/
def ofChars? (cs : List Char) : Option HeaderName :=
  let text := String.ofList (lower cs)
  if h : isFieldName text.toList = true then some ⟨text, h⟩ else none

theorem chars_inj {a b : HeaderName} : a.chars = b.chars ↔ a = b := by
  constructor
  · intro h
    cases a; cases b
    simpa [chars, String.toList_inj] using h
  · rintro rfl; rfl

theorem chars_ne_nil (n : HeaderName) : n.chars ≠ [] := by
  intro empty
  have valid := n.valid
  rw [← HeaderName.chars, empty] at valid
  cases valid

/-- A name that was read has the lowered text it was read from. -/
theorem chars_of_ofChars? {cs : List Char} {n : HeaderName} (h : ofChars? cs = some n) :
    n.chars = lower cs := by
  unfold ofChars? at h
  simp only at h
  split at h
  · cases h; simp [chars]
  · cases h

theorem ofChars?_eq_some_iff {cs : List Char} {n : HeaderName} : ofChars? cs = some n ↔ n.chars = lower cs := by
  constructor
  · exact chars_of_ofChars?
  · intro h
    have valid : isFieldName (String.ofList (lower cs)).toList = true := by
      rw [← h, chars, String.ofList_toList]
      exact n.valid
    unfold ofChars?
    rw [dif_pos valid, Option.some.injEq, ← chars_inj, h]
    exact String.toList_ofList

def connection : HeaderName := ⟨"connection", by decide⟩
def keepAlive : HeaderName := ⟨"keep-alive", by decide⟩
def proxyAuthenticate : HeaderName := ⟨"proxy-authenticate", by decide⟩
def proxyAuthorization : HeaderName := ⟨"proxy-authorization", by decide⟩
def te : HeaderName := ⟨"te", by decide⟩
def trailer : HeaderName := ⟨"trailer", by decide⟩
def transferEncoding : HeaderName := ⟨"transfer-encoding", by decide⟩
def upgrade : HeaderName := ⟨"upgrade", by decide⟩
def upgradeInsecureRequests : HeaderName := ⟨"upgrade-insecure-requests", by decide⟩

def host : HeaderName := ⟨"host", by decide⟩
def expect : HeaderName := ⟨"expect", by decide⟩
def contentLength : HeaderName := ⟨"content-length", by decide⟩
def contentType : HeaderName := ⟨"content-type", by decide⟩
def xHost : HeaderName := ⟨"x-host", by decide⟩
def xForwardedFor : HeaderName := ⟨"x-forwarded-for", by decide⟩
def xForwardedProto : HeaderName := ⟨"x-forwarded-proto", by decide⟩
def xRequestId : HeaderName := ⟨"x-request-id", by decide⟩

def secWebSocketKey : HeaderName := ⟨"sec-websocket-key", by decide⟩
def secWebSocketVersion : HeaderName := ⟨"sec-websocket-version", by decide⟩
def secWebSocketAccept : HeaderName := ⟨"sec-websocket-accept", by decide⟩
def secWebSocketExtensions : HeaderName := ⟨"sec-websocket-extensions", by decide⟩
def secWebSocketProtocol : HeaderName := ⟨"sec-websocket-protocol", by decide⟩

end HeaderName

end Gateway
