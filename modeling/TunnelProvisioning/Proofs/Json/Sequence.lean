import TunnelProvisioning.Json.Reader
import TunnelProvisioning.Proofs.Json.Number

/-! # JSON sequences read

Arrays and objects are read by one loop, which goes from comma to comma up to the character that
closes the sequence. So what the loop makes of a sequence of the grammar is said once, for whatever
form the items have, and so is why items that are written with commas between them are a sequence.
-/

namespace TunnelProvisioning.Json

variable {cs rest : List Char}

/-- What reading comes to: a value and the rest, or a fault if there is no value. -/
def reading {α : Type} (found : Option α) (rest : List Char) : Except Fault (α × List Char) :=
  match found with
  | some value => .ok (value, rest)
  | none => .error .malformed

/-- What is made of what is read. -/
theorem reading_map {α β : Type} (found : Option α) (make : α → β) :
    (do
      let (value, rest) ← reading found rest
      return (make value, rest)) = reading (found.map make) rest := by
  cases found <;> rfl

/-! ## Blanks -/

theorem skipBlanks_cons {c : Char} (visible : isBlank c = false) (cs : List Char) :
    skipBlanks (c :: cs) = c :: cs :=
  List.dropWhile_cons_of_neg (by simp only [visible, Bool.false_eq_true, not_false_eq_true])

theorem endsNumber_of_isBlank {c : Char} (blank : isBlank c = true) : endsNumber c = true := by
  simp only [isBlank, Bool.or_eq_true, decide_eq_true_eq] at blank
  rcases blank with ((rfl | rfl) | rfl) | rfl <;> rfl

namespace Blanks

theorem skipBlanks_eq (blanks : Blanks cs rest) : skipBlanks cs = skipBlanks rest := by
  induction blanks with
  | none => rfl
  | more blank _ ih => exact (List.dropWhile_cons_of_pos blank).trans ih

theorem length_le (blanks : Blanks cs rest) : rest.length ≤ cs.length := by
  induction blanks with
  | none => exact le_rfl
  | more _ _ ih => exact ih.trans (Nat.le_succ _)

theorem head?_ends (blanks : Blanks cs rest) (ends : rest.head?.all endsNumber = true) :
    cs.head?.all endsNumber = true := by
  cases blanks with
  | none => exact ends
  | more blank _ => exact endsNumber_of_isBlank blank

end Blanks

/-! ## Items -/

/-- A character that closes a sequence cannot be taken for anything else. -/
structure Closes (closing : Char) : Prop where
  visible : isBlank closing = false
  comma : closing ≠ ','
  ends : endsNumber closing = true

section

variable {α β : Type} {closing : Char} {item : List Char → Except Fault (β × List Char)}
  {form : α → List Char → List Char → Prop} {value? : α → Option β}

theorem nextItem_closing (closes : Closes closing) (first : Bool) :
    nextItem closing first (closing :: rest) = .ok (false, rest) := by
  rw [nextItem, skipBlanks_cons closes.visible]
  exact if_pos rfl

theorem nextItem_end (closes : Closes closing) (blanks : Blanks cs (closing :: rest))
    (first : Bool) : nextItem closing first cs = .ok (false, rest) := by
  rw [nextItem, blanks.skipBlanks_eq, ← nextItem]
  exact nextItem_closing closes first

theorem nextItem_first {c : Char} (blanks : Blanks cs (c :: rest)) (visible : isBlank c = false)
    (other : c ≠ closing) : nextItem closing true cs = .ok (true, c :: rest) := by
  rw [nextItem, blanks.skipBlanks_eq, skipBlanks_cons visible]
  exact if_neg other

theorem nextItem_comma {c : Char} {next : List Char} (closes : Closes closing)
    (before : Blanks cs (',' :: next)) (behind : Blanks next (c :: rest))
    (visible : isBlank c = false) (other : c ≠ closing) :
    nextItem closing false cs = .ok (true, c :: rest) := by
  rw [nextItem, before.skipBlanks_eq, skipBlanks_cons (by decide)]
  simp only [closes.comma.symm, if_false, Bool.false_eq_true, if_true, behind.skipBlanks_eq,
    skipBlanks_cons visible, other]

/-- Whatever has a form can be told from the end of the sequence by its first character, takes up
characters, and is read as its value. -/
structure Reads (closing : Char) (item : List Char → Except Fault (β × List Char))
    (form : α → List Char → List Char → Prop) (value? : α → Option β) : Prop where
  starts : ∀ {found : α} {cs rest : List Char}, form found cs rest →
    ∃ first more, cs = first :: more ∧ isBlank first = false ∧ first ≠ closing
  shorter : ∀ {found : α} {cs rest : List Char}, form found cs rest → rest.length < cs.length
  reads : ∀ {found : α} {cs rest : List Char}, form found cs rest →
    rest.head?.all endsNumber = true → item cs = reading (value? found) rest

theorem Elements.length_le (each : Reads closing item form value?) {found : List α}
    (elements : Elements closing form found cs rest) : found.length ≤ cs.length := by
  induction elements with
  | last spells _ => exact Nat.one_le_of_lt (each.shorter spells)
  | more spells before behind _ ih =>
    have own := each.shorter spells
    have commas := before.length_le
    have gap := behind.length_le
    simp only [List.length_cons] at commas ⊢
    omega

theorem Elements.starts (each : Reads closing item form value?) {found : List α}
    (elements : Elements closing form found cs rest) :
    ∃ first more, cs = first :: more ∧ isBlank first = false ∧ first ≠ closing := by
  cases elements with
  | last spells _ => exact each.starts spells
  | more spells _ _ _ => exact each.starts spells

theorem sequence_succ {fuel : Nat} {first : Bool} {before : List Char} {found : α}
    {left : List Char} (next : nextItem closing first before = .ok (true, cs))
    (reads : item cs = reading (value? found) left) {others : List α}
    (last : sequence closing item fuel false left = reading (others.mapM value?) rest) :
    sequence closing item (fuel + 1) first before =
      reading ((found :: others).mapM value?) rest := by
  simp only [sequence, next, reads, bind, Except.bind, if_true]
  rw [List.mapM_cons]
  cases value? found with
  | none => rfl
  | some value =>
    simp only [reading, last]
    cases others.mapM value? <;> rfl

/-- The items of a sequence are read one after the other. The induction is on them. -/
theorem Elements.sequence_eq (closes : Closes closing) (each : Reads closing item form value?)
    {found : List α} (elements : Elements closing form found cs rest) {fuel : Nat}
    (enough : found.length < fuel) {first : Bool} {before : List Char}
    (next : nextItem closing first before = .ok (true, cs)) :
    sequence closing item fuel first before = reading (found.mapM value?) rest := by
  induction elements generalizing fuel first before with
  | @last found cs after rest spells blanks =>
    obtain ⟨fuel, rfl⟩ := Nat.exists_eq_add_one.mpr (Nat.zero_lt_of_lt enough)
    obtain ⟨fuel, rfl⟩ := Nat.exists_eq_add_one.mpr (Nat.lt_of_succ_lt_succ enough)
    have read := each.reads spells (blanks.head?_ends closes.ends)
    have ended : sequence closing item (fuel + 1) false after = .ok ([], rest) := by
      simp only [sequence, nextItem_end closes blanks false, bind, Except.bind]
      rfl
    exact sequence_succ next read ended
  | @more found others cs after left start rest spells comma gap elements ih =>
    obtain ⟨fuel, rfl⟩ := Nat.exists_eq_add_one.mpr (Nat.zero_lt_of_lt enough)
    have read := each.reads spells (comma.head?_ends (by rfl))
    obtain ⟨c, more, rfl, visible, other⟩ := elements.starts each
    have goes := nextItem_comma closes comma gap visible other
    exact sequence_succ next read (ih (Nat.lt_of_succ_lt_succ enough) goes)

/-- A sequence is read up to the character that closes it. -/
theorem SequenceOf.sequence_eq (closes : Closes closing) (each : Reads closing item form value?)
    {found : List α} (spells : SequenceOf closing form found cs rest) :
    sequence closing item (cs.length + 1) true cs = reading (found.mapM value?) rest := by
  cases spells with
  | empty blanks =>
    simp only [sequence, nextItem_end closes blanks true, bind, Except.bind]
    rfl
  | filled blanks elements =>
    have shorter := (elements.length_le each).trans blanks.length_le
    obtain ⟨c, more, rfl, visible, other⟩ := elements.starts each
    exact elements.sequence_eq closes each (Nat.lt_succ_of_le shorter)
      (nextItem_first blanks visible other)

theorem SequenceOf.shorter (each : Reads closing item form value?) {found : List α}
    (spells : SequenceOf closing form found cs rest) : rest.length < cs.length := by
  have inner {found : List α} {cs rest : List Char}
      (elements : Elements closing form found cs rest) : rest.length < cs.length := by
    induction elements with
    | last spells blanks => exact (Nat.lt_of_succ_le blanks.length_le).trans (each.shorter spells)
    | more spells before behind _ ih =>
      have own := each.shorter spells
      have comma := before.length_le
      have gap := behind.length_le
      rw [List.length_cons] at comma
      omega
  cases spells with
  | empty blanks => exact Nat.lt_of_succ_le blanks.length_le
  | filled blanks elements => exact (inner elements).trans_le blanks.length_le

/-! ## What is written -/

/-- The written values with a comma before each. -/
def following (write : β → List Char) (values : List β) : List Char :=
  values.flatMap fun value => ',' :: write value

/-- The written values with commas between them. -/
def separated (write : β → List Char) : List β → List Char
  | [] => []
  | value :: values => write value ++ following write values

/-- Whether what is written has a form with a value, whatever follows. -/
def HasForm (form : α → List Char → List Char → Prop) (value? : α → Option β) (written : List Char)
    (value : β) : Prop :=
  ∃ found, value? found = some value ∧ ∀ rest, form found (written ++ rest) rest

theorem exists_elements {write : β → List Char} {value : β} {values : List β}
    (formed : HasForm form value? (write value) value)
    (others : ∀ value ∈ values, HasForm form value? (write value) value) :
    ∃ found, found.mapM value? = some (value :: values) ∧ ∀ rest,
      Elements closing form found (write value ++ (following write values ++ closing :: rest))
        rest := by
  obtain ⟨first, own, spells⟩ := formed
  induction values generalizing value first with
  | nil =>
    refine ⟨[first], ?_, fun rest => .last (spells _) (.none _)⟩
    rw [List.mapM_cons, own]
    rfl
  | cons next values ih =>
    obtain ⟨second, nextOwn, nextSpells⟩ := others next List.mem_cons_self
    obtain ⟨found, valued, elements⟩ := ih
      (fun value member => others value (List.mem_cons_of_mem _ member)) second nextOwn nextSpells
    refine ⟨first :: found, ?_, fun rest => ?_⟩
    · rw [List.mapM_cons, own, valued]
      rfl
    · refine .more (spells _) ?_ (.none _) (elements rest)
      simp only [following, List.flatMap_cons, List.cons_append, List.append_assoc]
      exact .none _

/-- Values that are written with commas between them are a sequence. -/
theorem exists_sequenceOf {write : β → List Char} {values : List β}
    (formed : ∀ value ∈ values, HasForm form value? (write value) value) :
    ∃ found, found.mapM value? = some values ∧ ∀ rest,
      SequenceOf closing form found (separated write values ++ closing :: rest) rest := by
  cases values with
  | nil => exact ⟨[], rfl, fun rest => .empty (.none _)⟩
  | cons value values =>
    obtain ⟨found, valued, elements⟩ := exists_elements (formed value List.mem_cons_self)
      fun value member => formed value (List.mem_cons_of_mem _ member)
    refine ⟨found, valued, fun rest => .filled (.none _) ?_⟩
    rw [separated, List.append_assoc]
    exact elements rest

end

end TunnelProvisioning.Json
