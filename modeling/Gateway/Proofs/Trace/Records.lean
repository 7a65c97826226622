import Gateway.Proofs.Fields.Forwarding
import Gateway.Proofs.Gate.Sendable
import Gateway.Trace.Record

/-!
# Records that show header fields

A record is text that others read line by line, and much of it comes from the other side of a connection. What a record
names in its first line cannot break it: methods, URIs, statuses and request ids have no line feed. The same goes for the
lines of the fields. A field value holds no line feed, and the text of bytes shows an ASCII character only where that byte
stands. A name has neither colon nor blank, so the first colon with a blank behind it is the one that ends the name,
whatever the value holds.

The main theorem is `TraceEvent.record_shows`: the fields are read back from the lines of the record.
-/

namespace Gateway

/-! ## ASCII in the text of bytes -/

namespace Utf8

variable {b : UInt8} {bs rest : Bytes} {c : Char} {n skip : Nat} {s : Scan}

/-- What may follow a lead byte, in numbers. -/
structure Second (lead b : Nat) : Prop where
  low : 0x80 ≤ b
  high : b ≤ 0xBF
  overlong : lead = 0xE0 → 0xA0 ≤ b
  surrogate : lead = 0xED → b ≤ 0x9F
  overlongFour : lead = 0xF0 → 0x90 ≤ b
  beyond : lead = 0xF4 → b ≤ 0x8F

theorem second_of_isSecond {lead : UInt8} (h : isSecond lead b = true) : Second lead.toNat b.toNat := by
  simp only [isSecond, isContinuation, beq_iff_eq, ← UInt8.toNat_inj, UInt8.reduceToNat] at h
  repeat' split at h
  all_goals
    simp only [Bool.and_eq_true, decide_eq_true_eq, UInt8.le_iff_toNat_le, UInt8.reduceToNat] at h
    constructor <;> omega

theorem payload_lt (b : UInt8) : payload b < 64 := Nat.mod_lt _ (by decide)

/-- A number above ASCII is no ASCII character. -/
theorem not_ascii_ofNat (valid : n.isValidChar) (high : 128 ≤ n) : ¬ (Char.ofNat n).toNat < 128 := by
  have same : (Char.ofNat n).toNat = n := by
    rw [Char.ofNat, dif_pos valid]
    rfl
  omega

theorem not_ascii_two {lead : Nat} (low : 0xC2 ≤ lead) (high : lead ≤ 0xDF) (b : UInt8) :
    ¬ (Char.ofNat (lead % 32 * 64 + payload b)).toNat < 128 := by
  have bits := payload_lt b
  exact not_ascii_ofNat (.inl (by omega)) (by omega)

theorem not_ascii_three {lead : Nat} {b : UInt8} (low : 0xE0 ≤ lead) (high : lead ≤ 0xEF) (second : Second lead b.toNat)
    (d : UInt8) : ¬ (Char.ofNat (lead % 16 * 4096 + payload b * 64 + payload d)).toNat < 128 := by
  obtain ⟨above, below, overlong, surrogate, -, -⟩ := second
  have bits := payload_lt d
  have same : payload b = b.toNat - 0x80 := by
    unfold payload
    omega
  refine not_ascii_ofNat ?_ (by omega)
  unfold Nat.isValidChar
  omega

theorem not_ascii_four {lead : Nat} {b : UInt8} (low : 0xF0 ≤ lead) (high : lead ≤ 0xF4) (second : Second lead b.toNat)
    (d e : UInt8) :
    ¬ (Char.ofNat (lead % 8 * 262144 + payload b * 4096 + payload d * 64 + payload e)).toNat < 128 := by
  obtain ⟨above, below, -, -, overlong, beyond⟩ := second
  have bits := payload_lt d
  have more := payload_lt e
  have same : payload b = b.toNat - 0x80 := by
    unfold payload
    omega
  refine not_ascii_ofNat ?_ (by omega)
  unfold Nat.isValidChar
  omega

theorem between_iff {low high : UInt8} :
    (decide (low ≤ b) && decide (b ≤ high)) = true ↔ low.toNat ≤ b.toNat ∧ b.toNat ≤ high.toNat := by
  simp only [Bool.and_eq_true, decide_eq_true_eq, UInt8.le_iff_toNat_le]

/-- An ASCII character that is read stands for one byte of its number. -/
theorem toNat_of_scan? (h : scan? (b :: rest) = some (.scalar c n)) (ascii : c.toNat < 128) : b.toNat = c.toNat := by
  rw [scan?.eq_def] at h
  dsimp only at h
  split at h
  · cases h
    exact (toNat_ofNat_byte b).symm
  -- what is read from more bytes is above ASCII, by the bounds of the first two
  refine absurd ascii ?_
  split at h
  · next lead =>
    obtain ⟨low, high⟩ := between_iff.1 lead
    split at h <;> try cases h
    next d _ =>
    split at h <;> cases h
    exact not_ascii_two low high d
  split at h
  · next lead =>
    obtain ⟨low, high⟩ := between_iff.1 lead
    split at h <;> try cases h
    split at h <;> try cases h
    next second =>
    split at h <;> try cases h
    next d _ =>
    split at h <;> cases h
    exact not_ascii_three low high (second_of_isSecond second) d
  split at h
  · next lead =>
    obtain ⟨low, high⟩ := between_iff.1 lead
    split at h <;> try cases h
    split at h <;> try cases h
    next second =>
    split at h <;> try cases h
    next d _ =>
    split at h <;> try cases h
    split at h <;> try cases h
    next e _ =>
    split at h <;> cases h
    exact not_ascii_four low high (second_of_isSecond second) d e
  · cases h

/-- Each scan looks at some of the bytes. -/
theorem exists_of_mem_scansFrom (h : s ∈ scansFrom skip bs) : ∃ b ∈ bs, ∃ rest, scan? (b :: rest) = some s := by
  induction bs generalizing skip with
  | nil => cases h
  | cons b bs ih =>
    have later {skip : Nat} (h : s ∈ scansFrom skip bs) : ∃ d ∈ b :: bs, ∃ rest, scan? (d :: rest) = some s := by
      obtain ⟨d, hd, found⟩ := ih h
      exact ⟨d, List.mem_cons_of_mem _ hd, found⟩
    cases skip with
    | succ skip => exact later h
    | zero =>
      rw [scansFrom] at h
      split at h
      · next first =>
        rcases List.mem_cons.1 h with rfl | h
        · exact ⟨b, List.mem_cons_self, bs, first⟩
        · exact later h
      · cases h

/-- An ASCII character of the text of bytes is one of the bytes. -/
theorem exists_of_mem_decodeLossy (h : c ∈ decodeLossy bs) (ascii : c.toNat < 128) : ∃ b ∈ bs, b.toNat = c.toNat := by
  obtain ⟨s, hs, shown⟩ := List.mem_map.1 h
  obtain ⟨b, hb, rest, read⟩ := exists_of_mem_scansFrom hs
  cases s with
  | scalar d n =>
    obtain rfl : d = c := shown
    exact ⟨b, hb, toNat_of_scan? read ascii⟩
  | malformed n =>
    obtain rfl : '\uFFFD' = c := shown
    exact absurd ascii (by decide)

end Utf8

/-! ## Texts of one line -/

/-- A text without line feeds. -/
def OneLine (s : String) : Prop := '\n' ∉ s.toList

instance (s : String) : Decidable (OneLine s) := inferInstanceAs (Decidable (¬ _))

namespace OneLine

variable {s t : String}

theorem append (hs : OneLine s) (ht : OneLine t) : OneLine (s ++ t) := by
  rw [OneLine, String.toList_append, List.mem_append, not_or]
  exact ⟨hs, ht⟩

/-- A text of a class of characters the line feed is not of. -/
theorem of_class {p : Char → Bool} (hs : ∀ c ∈ s.toList, p c = true) (feed : p '\n' = false) : OneLine s := by
  intro mem
  rw [hs _ mem] at feed
  cases feed

theorem of_visible (h : Visible s) : OneLine s := of_class (List.all_eq_true.1 h) (by decide)

/-- A text that may be a field value. -/
theorem of_writable (h : Writable s) : OneLine s := by
  intro mem
  have byte : (10 : UInt8) ∈ utf8 s := List.mem_flatMap.2 ⟨'\n', mem, by decide⟩
  exact absurd (h 10 byte) (by decide)

end OneLine

theorem Method.oneLine_text (m : Method) : OneLine m.text := .of_class (List.all_eq_true.1 m.valid.2) (by decide)

theorem Version.oneLine_text (v : Version) : OneLine v.text := by cases v <;> decide

theorem Status.oneLine_text (s : Status) : OneLine s.text := by
  have digits : OneLine (toString s.code) := by
    refine .of_visible ?_
    unfold Visible
    rw [show toString s.code = Nat.repr s.code from rfl, Nat.toList_repr]
    exact visible_toDigits 10 _
  refine (digits.append (by decide)).append ?_
  cases known : s.reason? with
  | none => decide
  | some phrase =>
    have all : ∀ r ∈ reasons, OneLine r.2 := by decide +kernel
    obtain ⟨before, after, table, -⟩ := List.lookup_eq_some_iff.1 known
    exact all (s.code, phrase) (by rw [table]; exact List.mem_append_right _ List.mem_cons_self)

namespace Uri

variable {u : Uri}

/-- The text of a URI shows the characters its parts may have, and what stands between them. -/
theorem Spelt.oneLine_text (spelt : u.Spelt) : OneLine u.text := by
  have authority : OneLine (u.authority.getD "") := by
    cases shown : u.authority with
    | none => decide
    | some a =>
      refine .of_class (p := fun c => isAuthorityChar c || c == '%') (fun c hc => ?_) (by decide)
      rw [Bool.or_eq_true, beq_iff_eq]
      exact spelt.authority a shown c hc
  have path : OneLine u.shownPath := by
    unfold shownPath
    split
    · decide
    · exact .of_class spelt.path (by decide)
  unfold text
  refine .append (.append (.append ?_ authority) path) ?_
  · split
    · next s shown => exact .append (.of_class (spelt.scheme s shown) (by decide)) (by decide)
    · decide
  · split
    · next q shown => exact .append (by decide) (.of_class (spelt.query q shown) (by decide))
    · decide

end Uri

/-! ## The line of a field -/

namespace HeaderName

/-- Names consist of token characters. -/
theorem not_mem_chars (n : HeaderName) {c : Char} (h : isTokenChar c = false) : c ∉ n.chars := by
  intro mem
  have valid := n.valid
  rw [isFieldName, Bool.and_eq_true, Bool.and_eq_true, List.all_eq_true] at valid
  have token := (Bool.and_eq_true_iff.1 (valid.1.2 c mem)).1
  rw [h] at token
  cases token

end HeaderName

/-- What stands before and after the first colon that a blank follows. -/
def splitLabel? : List Char → Option (List Char × List Char)
  | c :: d :: cs =>
    if c = ':' ∧ d = ' ' then some ([], cs)
    else (splitLabel? (d :: cs)).map fun parts => (c :: parts.1, parts.2)
  | _ => none

/-- What a line says, if it is the line of a field: two blanks, the name, a colon, a blank, the value. -/
def readField? : List Char → Option (List Char × List Char)
  | ' ' :: ' ' :: cs => splitLabel? cs
  | _ => none

theorem splitLabel?_append {name : List Char} (colon : ':' ∉ name) (value : List Char) :
    splitLabel? (name ++ ':' :: ' ' :: value) = some (name, value) := by
  induction name with
  | nil => rfl
  | cons c cs ih =>
    obtain ⟨other, rest⟩ := not_or.1 (mt List.mem_cons.2 colon)
    have behind := ih rest
    obtain ⟨d, ds, hd⟩ : ∃ d ds, cs ++ ':' :: ' ' :: value = d :: ds := by cases cs <;> exact ⟨_, _, rfl⟩
    rw [List.cons_append, hd, splitLabel?, if_neg fun both => other both.1.symm, ← hd, behind]
    rfl

namespace Headers

/-- The name and the value of a field, as a line shows them. -/
def shown (f : HeaderName × HeaderValue) : List Char × List Char := (f.1.chars, Utf8.decodeLossy f.2.bytes)

/-- The line of a field says which field it is. -/
theorem readField?_fieldLine (f : HeaderName × HeaderValue) : readField? (fieldLine f) = some (shown f) :=
  splitLabel?_append (f.1.not_mem_chars (by decide)) _

/-- The line of a field is one line. -/
theorem not_mem_fieldLine (f : HeaderName × HeaderValue) : '\n' ∉ fieldLine f := by
  intro mem
  have value : '\n' ∉ Utf8.decodeLossy f.2.bytes := by
    intro mem
    obtain ⟨b, hb, feed⟩ := Utf8.exists_of_mem_decodeLossy mem (by decide)
    have allowed := isFieldByte_iff.1 (List.all_eq_true.1 f.2.valid b hb)
    rw [feed] at allowed
    exact absurd allowed (by decide)
  have name : '\n' ∉ f.1.chars := f.1.not_mem_chars (by decide)
  simp only [fieldLine, List.cons_append, List.mem_cons, List.mem_append] at mem
  rcases mem with blank | blank | there | colon | blank | there
  · exact absurd blank (by decide)
  · exact absurd blank (by decide)
  · exact name there
  · exact absurd colon (by decide)
  · exact absurd blank (by decide)
  · exact value there

end Headers

/-! ## Records -/

/-- A first line and further lines, each after a line feed. -/
theorem intercalate_feed (first : List Char) (lines : List (List Char)) :
    ['\n'].intercalate (first :: lines) = first ++ lines.flatMap ('\n' :: ·) := by
  induction lines generalizing first with
  | nil => simp
  | cons line lines ih =>
    rw [List.intercalate_cons_cons, ih, List.flatMap_cons, List.append_assoc]
    rfl

namespace TraceEvent

variable {e : TraceEvent} {h : Headers} {id : String}

/-- An event that shows header fields. What it names beside them is well-formed: the parts of a URI consist of their
characters, as they do in all that is read as a URI, and the address of the client and the scheme are texts of one line. -/
inductive Shows : TraceEvent → Headers → Prop
  | requestStarted {start : RequestStart} (uri : start.uri.Spelt) (client : OneLine start.clientHost)
    (scheme : OneLine start.scheme) : Shows (.requestStarted start) start.headers
  | forwardStarted {method : Method} {uri : Uri} {headers : Headers} (spelt : uri.Spelt) :
    Shows (.forwardStarted method uri headers) headers
  | responseStarted {status : Status} {headers : Headers} : Shows (.responseStarted status headers) headers
  | answerHeaded {status : Status} {headers : Headers} : Shows (.answerHeaded status headers) headers
  | socketStarted {uri : Uri} {headers : Headers} (spelt : uri.Spelt) : Shows (.socketStarted uri headers) headers

theorem Shows.shownHeaders (shows : e.Shows h) : e.shownHeaders = h := by cases shows <;> rfl

theorem Shows.oneLine_summary (shows : e.Shows h) : OneLine e.summary := by
  cases shows with
  | @requestStarted start uri client scheme =>
    have head : OneLine (start.method.text ++ " " ++ start.uri.text ++ " " ++ start.version.text) :=
      (((start.method.oneLine_text.append (by decide)).append uri.oneLine_text).append
        (by decide)).append start.version.oneLine_text
    exact ((((head.append (by decide)).append scheme).append (by decide)).append client).append (by decide)
  | forwardStarted spelt => exact ((Method.oneLine_text _).append (by decide)).append spelt.oneLine_text
  | responseStarted => exact Status.oneLine_text _
  | answerHeaded => exact Status.oneLine_text _
  | socketStarted spelt => exact .append (by decide) spelt.oneLine_text

theorem Shows.oneLine_headline (shows : e.Shows h) (usable : Writable id) : OneLine (e.headline id) := by
  have mark : OneLine e.leg.mark := by cases e.leg <;> decide
  exact (((mark.append (by decide)).append (.of_writable usable)).append (by decide)).append shows.oneLine_summary

/-- The record of an event that shows header fields has its first line and one line for each field. -/
theorem Shows.splitOn_record (shows : e.Shows h) (usable : Writable id) :
    (e.record id).toList.splitOn '\n' = (e.headline id).toList :: h.entries.map Headers.fieldLine := by
  have joined : (e.record id).toList = ['\n'].intercalate ((e.headline id).toList :: h.entries.map Headers.fieldLine) := by
    rw [record, String.toList_ofList, shows.shownHeaders, intercalate_feed, List.flatMap_map, Headers.dump]
  rw [joined]
  refine List.splitOn_intercalate _ (fun line hline => ?_) (List.cons_ne_nil _ _)
  rcases List.mem_cons.1 hline with rfl | hline
  · exact shows.oneLine_headline usable
  · obtain ⟨f, -, rfl⟩ := List.mem_map.1 hline
    exact Headers.not_mem_fieldLine f

/-- A record splits into its first line and one line for each field value, and these lines read as fields are the fields
it shows: no more, no fewer, and none that another value spells. -/
theorem record_shows (shows : e.Shows h) (usable : Writable id) :
    ∃ lines fields, (e.record id).toList.splitOn '\n' = (e.headline id).toList :: lines
      ∧ lines.length = h.entries.length
      ∧ lines.mapM readField? = some fields
      ∧ fields.Perm (h.entries.map Headers.shown) := by
  refine ⟨h.entries.map Headers.fieldLine, h.entries.map Headers.shown, shows.splitOn_record usable, ?_, ?_, .refl _⟩
  · rw [List.length_map]
  · have reads : readField? ∘ Headers.fieldLine = fun f => pure (Headers.shown f) :=
      funext Headers.readField?_fieldLine
    rw [List.mapM_map, reads, List.mapM_pure]
    rfl

/-- A request with values that look like fields, or are empty, or no text. -/
def lookalike : RequestStart where
  method := .get
  uri := { scheme := some "http", authority := some "backend", path := "", query := some "a:%20b" }
  version := .http11
  scheme := "https"
  clientHost := "::1"
  headers := ⟨[(.te, ⟨charBytes "  host: x".toList, by decide⟩), (.host, ⟨[], by decide⟩),
    (.te, ⟨[58, 32, 9, 195, 138, 195], by decide⟩)]⟩

/-- They are read back as what they are. -/
theorem record_shows_lookalike : ∃ lines fields,
    ((requestStarted lookalike).record "7").toList.splitOn '\n' = ((requestStarted lookalike).headline "7").toList :: lines
      ∧ lines.length = 3 ∧ lines.mapM readField? = some fields
      ∧ fields.Perm [("te".toList, "  host: x".toList), ("host".toList, []), ("te".toList, ": \tÊ\uFFFD".toList)] := by
  have read : Uri.ofString "HTTP://backend?a:%20b#c" = .ok lookalike.uri := rfl
  have usable : Writable "7" := writable_iff.2 (by decide)
  have fields : lookalike.headers.entries.map Headers.shown
      = [("te".toList, "  host: x".toList), ("host".toList, []), ("te".toList, ": \tÊ\uFFFD".toList)] := by decide +kernel
  rw [← fields]
  exact record_shows (.requestStarted (Uri.spelt_of_ofString read) (by decide) (by decide)) usable

end TraceEvent

end Gateway
