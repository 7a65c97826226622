import Gateway.Duration
import Gateway.Header.EndToEnd

/-!
# Connection persistence, upgrades and expectations

An idle connection is closed after a while. The time that is announced to the client is five seconds shorter, so that the
client gives the connection up first.
-/

namespace Gateway

/-- The announced part of an idle timeout in seconds. -/
def announcedSeconds (idle : Duration) : Nat := idle.seconds - 5

/-- The `keep-alive` parameters for an idle timeout, for instance `timeout=55`. -/
def HeaderValue.keepAliveFor (idle : Duration) : HeaderValue :=
  (⟨charBytes "timeout=".toList, by decide⟩ : HeaderValue).append (.ofNat (announcedSeconds idle))

namespace Headers

/-- Announces that the connection stays open, with the given `keep-alive` parameters. -/
def keepOpen (h : Headers) (parameters : HeaderValue) : Headers :=
  (h.insert .connection .keepAlive).insert .keepAlive parameters

theorem values_keepOpen_of_ne (h : Headers) (parameters : HeaderValue) {n : HeaderName} (hc : n ≠ .connection)
    (hk : n ≠ .keepAlive) : (h.keepOpen parameters).values n = h.values n := by
  rw [keepOpen, values_insert, if_neg hk, values_insert, if_neg hc]

/-- Announces that the connection closes after this message. -/
def closeAfter (h : Headers) : Headers := (h.remove .keepAlive).insert .connection .close

theorem values_closeAfter_of_ne (h : Headers) {n : HeaderName} (hc : n ≠ .connection) (hk : n ≠ .keepAlive) :
    h.closeAfter.values n = h.values n := by
  rw [closeAfter, values_insert, if_neg hc, values_remove, if_neg hk]

/-- Whether a message asks to close its connection. -/
def asksToClose (h : Headers) : Bool := h.connectionOptions.contains "close".toList

/-- Whether the first value of a name is the given text, ignoring case and blanks around it. -/
def announces (h : Headers) (n : HeaderName) (word : String) : Bool :=
  match h.text? n with
  | some t => sameText (trim t) word.toList
  | none => false

/-- What a message announces under a name depends on the values of the name alone. -/
theorem announces_congr {g h : Headers} {n : HeaderName} (same : g.values n = h.values n) (word : String) :
    g.announces n word = h.announces n word := by
  simp only [announces, text?, get?, same]

/-- Whether a request asks to switch to the websocket protocol. -/
def asksForWebSocket (h : Headers) : Bool := h.announces .upgrade "websocket"

/-- Whether a request waits for an interim answer before it sends its body. -/
def expectsContinue (h : Headers) : Bool := h.announces .expect "100-continue"

end Headers

end Gateway
