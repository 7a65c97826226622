import Gateway.Body.Reading

/-!
# What is still to be read

`Body.items` and `Pipe.items` are the items a reader would get if nothing else happened; the end is there once it is
known. A read takes the first item, and what the other side does adds items at the back. That is all a proof about
bodies has to know of reading: `Body.items_of_read`, `Body.items_push`, `Pipe.items_of_read`.
-/

namespace Gateway

namespace Item

/-- The bytes of a data item. -/
def chunk? : Item → Option Bytes
  | data bytes => some bytes
  | _ => none

/-- The fields of a trailers item. -/
def fields? : Item → Option Headers
  | trailers fields => some fields
  | _ => none

end Item

/-- The data chunks among some items. -/
def chunks (items : List Item) : List Bytes := items.filterMap Item.chunk?

/-- The trailers among some items. -/
def trailerFields (items : List Item) : List Headers := items.filterMap Item.fields?

/-- The items up to the end or a failure. -/
def frames (items : List Item) : List Item := items.takeWhile Item.isMore

@[simp] theorem chunks_nil : chunks [] = [] := rfl

@[simp] theorem chunks_append (a b : List Item) : chunks (a ++ b) = chunks a ++ chunks b := List.filterMap_append

@[simp] theorem chunks_map_data (cs : List Bytes) : chunks (cs.map .data) = cs := by
  induction cs with
  | nil => rfl
  | cons c cs ih => exact congrArg (c :: ·) ih

@[simp] theorem trailerFields_append (a b : List Item) :
    trailerFields (a ++ b) = trailerFields a ++ trailerFields b := List.filterMap_append

@[simp] theorem trailerFields_map_data (cs : List Bytes) : trailerFields (cs.map .data) = [] := by
  induction cs with
  | nil => rfl
  | cons c cs ih => exact ih

theorem chunks_prefix {a b : List Item} (h : a <+: b) : chunks a <+: chunks b := by
  obtain ⟨rest, rfl⟩ := h
  exact ⟨chunks rest, (chunks_append a rest).symm⟩

theorem trailerFields_mono {a b : List Item} (h : a <+: b) : trailerFields a <+: trailerFields b := by
  obtain ⟨rest, rfl⟩ := h
  exact ⟨trailerFields rest, (trailerFields_append a rest).symm⟩

/-- Behind the chunks there are no more. -/
theorem chunks_trailers_done (fields : List Headers) (n : Nat) :
    chunks (fields.map .trailers ++ List.replicate n .done) = [] := by
  induction fields with
  | nil =>
    induction n with
    | zero => rfl
    | succ n ih => exact ih
  | cons f fields ih => exact ih

theorem trailerFields_trailers_done (fields : List Headers) (n : Nat) :
    trailerFields (fields.map .trailers ++ List.replicate n .done) = fields := by
  induction fields with
  | nil =>
    induction n with
    | zero => rfl
    | succ n ih => exact ih
  | cons f fields ih => exact congrArg (f :: ·) ih

/-- Items that go on are among the frames of whatever they begin. -/
theorem prefix_frames {pulled offered : List Item} (hp : ∀ i ∈ pulled, i.isMore = true) (h : pulled <+: offered) :
    pulled <+: frames offered := by
  obtain ⟨rest, rfl⟩ := h
  rw [frames, List.takeWhile_append_of_pos hp]
  exact List.prefix_append _ _

/-- What goes on is a frame. -/
theorem isMore_of_mem_frames {offered : List Item} : ∀ i ∈ frames offered, i.isMore = true :=
  List.all_eq_true.1 List.all_takeWhile

/-- More items, more frames. -/
theorem frames_mono {a b : List Item} (h : a <+: b) : frames a <+: frames b :=
  prefix_frames isMore_of_mem_frames ((List.takeWhile_prefix _).trans h)

/-- Where the end or a failure follows, they are all of them. -/
theorem frames_eq {pulled offered : List Item} {stop : Item} (hp : ∀ i ∈ pulled, i.isMore = true)
    (hs : stop.isMore = false) (h : pulled ++ [stop] <+: offered) : frames offered = pulled := by
  obtain ⟨rest, rfl⟩ := h
  rw [frames, List.append_assoc, List.takeWhile_append_of_pos hp, List.singleton_append,
    List.takeWhile_cons_of_neg (by simp [hs]), List.append_nil]

/-! ## Bodies -/

namespace Body

/-- The items that can be read. -/
def items : Body → List Item
  | whole none => [.done]
  | whole (some bytes) => [.data bytes, .done]
  | arriving s => if s.ended then [.done] else s.items

/-- Whether an item that arrives will be read. -/
def takes : Body → Bool
  | whole _ => false
  | arriving s => !s.released && !s.ended

theorem items_push (b : Body) (item : Item) :
    (b.push item).items = if b.takes then b.items ++ [item] else b.items := by
  cases b with
  | whole rest => rfl
  | arriving s => cases hr : s.released <;> cases he : s.ended <;> simp [push, Source.push, items, takes, hr, he]

theorem takes_push (b : Body) (item : Item) : (b.push item).takes = b.takes := by
  cases b with
  | whole rest => rfl
  | arriving s => cases hr : s.released <;> simp [push, Source.push, takes, hr]

/-- A read takes the first item. -/
theorem items_of_read {b c : Body} {item : Item} (h : b.read = (some item, c)) (hi : item ≠ .done) :
    b.items = item :: c.items ∧ c.takes = b.takes := by
  cases b with
  | whole rest =>
    cases rest with
    | none =>
      cases h
      exact absurd rfl hi
    | some bytes =>
      cases h
      exact ⟨rfl, rfl⟩
  | arriving s =>
    unfold read Source.read at h
    unfold items takes
    cases he : s.ended with
    | true =>
      simp only [he, if_true, Prod.mk.injEq, Option.some.injEq] at h
      exact absurd h.1.symm hi
    | false =>
      simp only [he, Bool.false_eq_true, if_false] at h ⊢
      match hs : s.items with
      | [] => simp [hs] at h
      | first :: rest =>
        cases first <;> simp only [hs, Prod.mk.injEq, Option.some.injEq] at h <;> obtain ⟨rfl, rfl⟩ := h <;> simp_all

theorem items_of_read_done {b c : Body} (h : b.read = (some .done, c)) : ∃ rest, b.items = .done :: rest := by
  cases b with
  | whole rest =>
    cases rest with
    | none => exact ⟨[], rfl⟩
    | some bytes => cases h
  | arriving s =>
    unfold read Source.read at h
    unfold items
    cases he : s.ended with
    | true => exact ⟨[], by simp [he]⟩
    | false =>
      simp only [he, Bool.false_eq_true, if_false] at h ⊢
      match hs : s.items with
      | [] => simp [hs] at h
      | .done :: rest => exact ⟨rest, rfl⟩
      | .data _ :: rest | .trailers _ :: rest | .failure _ :: rest => simp [hs] at h

end Body

/-! ## Pipes -/

namespace Pipe

/-- A queued entry as its reader gets it. -/
def entry : Except Cause Bytes → Item
  | .ok chunk => .data chunk
  | .error cause => .failure cause

/-- The items that can be read. The end can be read again and again. -/
def items (p : Pipe) : List Item :=
  p.queue.map entry ++ if p.writer then [] else p.trailers.toList.map .trailers ++ [.done]

/-- The chunks that can be read are those that are queued. -/
theorem chunks_items (p : Pipe) : chunks p.items = chunks (p.queue.map entry) := by
  unfold items
  rw [chunks_append]
  split
  · exact List.append_nil _
  · rw [show [Item.done] = List.replicate 1 .done from rfl, chunks_trailers_done]
    exact List.append_nil _

theorem items_of_writer {p : Pipe} (h : p.writer = true) : p.items = p.queue.map entry := by
  simp [items, h]

theorem items_closeWriter {p : Pipe} (h : p.writer = true) :
    p.closeWriter.items = p.items ++ (p.trailers.toList.map .trailers ++ [.done]) := by
  simp [items, closeWriter, h]

/-- Who gives up lets a reader see it. -/
theorem items_abort {p : Pipe} (hw : p.writer = true) (hr : p.reader = true) :
    p.abort.items = p.items ++ .failure .pipeAborted :: (p.trailers.toList.map .trailers ++ [.done]) := by
  simp [items, abort, sendFailure, closeWriter, hw, hr, entry]

/-- The failure behind the chunks is no chunk. -/
theorem chunks_abort (p : Pipe) : chunks (p.abort.queue.map entry) = chunks (p.queue.map entry) := by
  rw [abort_eq, List.map_append, chunks_append]
  split <;> exact List.append_nil _

theorem items_of_read_none {p q : Pipe} (h : p.read = (none, q)) : p.items = [] ∧ q = { p with demanded := true } := by
  unfold read at h
  dsimp only at h
  split at h
  · cases h
  · cases h
  · rename_i hq
    split at h
    · rename_i hw
      cases h
      exact ⟨by simp [items, hq, hw], rfl⟩
    · split at h <;> cases h

/-- A read takes the first item, and leaves the end where it is. -/
theorem items_of_read {p q : Pipe} {item : Item} (h : p.read = (some item, q)) :
    (p.items = item :: q.items ∧ item ≠ .done) ∨ (item = .done ∧ p.items = [.done] ∧ q.items = [.done]) := by
  unfold read at h
  dsimp only at h
  split at h
  · rename_i chunk rest hq
    cases h
    exact .inl ⟨by simp [items, hq, entry], by simp⟩
  · rename_i cause rest hq
    cases h
    exact .inl ⟨by simp [items, hq, entry], by simp⟩
  · rename_i hq
    split at h
    · cases h
    · rename_i hw
      split at h
      · rename_i fields ht
        cases h
        exact .inl ⟨by simp [items, hq, hw, ht], by simp⟩
      · rename_i ht
        cases h
        exact .inr ⟨rfl, by simp [items, hq, hw, ht], by simp [items, hq, hw, ht]⟩

/-- A read changes what was read, and nothing about the two sides. -/
theorem read_spec {p q : Pipe} {item : Option Item} (h : p.read = (item, q)) :
    q.reader = p.reader ∧ q.writer = p.writer ∧ q.trailed = p.trailed ∧ q.queue.length ≤ p.queue.length := by
  unfold read at h
  dsimp only at h
  split at h
  · rename_i chunk rest hq
    cases h
    exact ⟨rfl, rfl, rfl, by simp [hq]⟩
  · rename_i cause rest hq
    cases h
    exact ⟨rfl, rfl, rfl, by simp [hq]⟩
  · split at h
    · cases h
      exact ⟨rfl, rfl, rfl, Nat.le_refl _⟩
    · split at h <;> cases h <;> exact ⟨rfl, rfl, rfl, Nat.le_refl _⟩

/-- A chunk that is read counts, and leaves the trailers where they are. -/
theorem read_data {p q : Pipe} {chunk : Bytes} (h : p.read = (some (.data chunk), q)) :
    q.trailers = p.trailers ∧ q.remaining = p.remaining.consume chunk.length := by
  unfold read at h
  dsimp only at h
  split at h
  · cases h
    exact ⟨rfl, rfl⟩
  · cases h
  · split at h
    · cases h
    · split at h <;> cases h

/-- Of the chunks in the pipe a read takes the first, and counts it. -/
theorem read_counts {p q : Pipe} {item : Option Item} (h : p.read = (item, q)) :
    chunks (p.queue.map entry) = chunks item.toList ++ chunks (q.queue.map entry)
      ∧ q.remaining = p.remaining.consume (chunks item.toList).flatten.length := by
  unfold read at h
  dsimp only at h
  split at h
  · rename_i chunk rest hq
    cases h
    rw [hq]
    exact ⟨rfl, by simp [chunks, Item.chunk?]⟩
  · rename_i cause rest hq
    cases h
    rw [hq]
    exact ⟨rfl, p.remaining.consume_zero.symm⟩
  · rename_i hq
    split at h
    · cases h
      exact ⟨by simp [hq], p.remaining.consume_zero.symm⟩
    · split at h <;> cases h <;> exact ⟨by simp [hq, chunks, Item.chunk?], p.remaining.consume_zero.symm⟩

end Pipe

end Gateway
