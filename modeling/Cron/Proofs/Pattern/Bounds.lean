import Cron.Proofs.Pattern.Numbers

/-! # Reading within bounds

The reader takes bounds along and asks for them in many places, before and behind the faults
that it meets without them.  Seen from outside it reads the text by its syntax alone first, and
then holds the pattern to the bounds (`readChars_some`).  The bounds change no pattern, and of
the faults of the syntax they rename only that of shape: where a step base or the parts of a
list had to be numbers, they have to be numbers within the bounds.

So a field refuses more than the syntax does, and reads nothing else (`Field.RefinesSyntax`).
-/
namespace Cron
namespace Pattern

/-- The bounds that a fault names, if it names any. -/
def Fault.missed? : Fault → Option Bounds
  | .start b | .stop b | .list b | .number b => some b
  | _ => none

/-- What is told within bounds in place of a fault of shape. -/
def shapeWithin (b : Bounds) (cs : List Char) : Fault :=
  if '/' ∈ cs then .start b
  else if ',' ∈ cs ∧ '-' ∉ cs then .list b
  else .shape

/-- The faults that numbers have which were read and do not suit the bounds. -/
def misfits (b : Bounds) : List Fault := [.number b, .start b, .stop b, .order, .list b]

/-- Holds the base of a step to bounds. -/
def Base.hold (b : Bounds) : Base → Except Fault Base
  | any => .ok any
  | start a => if b.contains a then .ok (start a) else .error (.start b)
  | range a z => (checkRange (some b) a z).map (fun r => .range r.1 r.2)

/-- Holds a pattern to bounds. -/
def hold (b : Bounds) : Pattern → Except Fault Pattern
  | any => .ok any
  | single v => if b.contains v then .ok (single v) else .error (.number b)
  | list vs => if vs.all b.contains then .ok (list vs) else .error (.list b)
  | range a z => (checkRange (some b) a z).map (fun r => .range r.1 r.2)
  | step o n => (o.hold b).map (fun o => .step o n)

/-- The first number of a range, or the one from which a step counts. -/
def first? : Pattern → Option UInt32
  | range a _ | step (.start a) _ | step (.range a _) _ => some a
  | _ => none

/-- The last number of a range, or the one up to which a step goes. -/
def last? : Pattern → Option UInt32
  | range _ z | step (.range _ z) _ => some z
  | _ => none

/-- Why bounds refuse a pattern: one of its numbers is not within them, or its first number is
not less than its last one. -/
inductive Misfit (b : Bounds) : Pattern → Fault → Prop
  | number {v : UInt32} : b.contains v = false → Misfit b (.single v) (.number b)
  | list {vs : List UInt32} {v : UInt32} : v ∈ vs → b.contains v = false →
      Misfit b (.list vs) (.list b)
  | start {p : Pattern} {a : UInt32} : p.first? = some a → b.contains a = false →
      Misfit b p (.start b)
  | stop {p : Pattern} {z : UInt32} : p.last? = some z → b.contains z = false →
      Misfit b p (.stop b)
  | order {p : Pattern} {a z : UInt32} : p.first? = some a → p.last? = some z → z ≤ a →
      Misfit b p .order

/-- Holds what was read by the syntax to bounds.  A fault of shape is told as another. -/
def heldTo {α : Type} (hold : α → Except Fault α) (told : Fault) : Except Fault α → Except Fault α
  | .ok a => hold a
  | .error .shape => .error told
  | .error fault => .error fault

variable {b : Bounds} {cs : List Char}

theorem heldTo_error_of_ne {α : Type} {hold : α → Except Fault α} {told fault : Fault}
    (h : fault ≠ .shape) : heldTo hold told (.error fault) = .error fault := by
  cases fault with
  | shape => exact absurd rfl h
  | _ => rfl

/-- Holding to bounds may come before or after what is made of the result. -/
theorem map_heldTo {α β : Type} {hold : α → Except Fault α} {hold' : β → Except Fault β}
    {f : α → β} (h : ∀ a, (hold a).map f = hold' (f a)) (told : Fault) (x : Except Fault α) :
    (heldTo hold told x).map f = heldTo hold' told (x.map f) := by
  cases x with
  | ok a => exact h a
  | error fault => cases fault <;> rfl

/-! ## One reader after the other -/

/-- The reader of ranges meets no fault of shape, so nothing is told in its place. -/
theorem readRange_some (told : Fault) : readRange (some b) cs =
    heldTo (fun r => checkRange (some b) r.1 r.2) told (readRange none cs) := by
  unfold readRange
  split
  · split
    · rfl
    · rfl
  · rfl

theorem boundedNumber?_none : boundedNumber? none = number? := by
  funext cs
  unfold boundedNumber?
  cases number? cs <;> rfl

theorem readBase_some : readBase (some b) cs =
    heldTo (Base.hold b) (.start b) (readBase none cs) := by
  unfold readBase
  split
  · rfl
  split
  · rw [readRange_some (.start b)]
    apply map_heldTo
    intro r
    rfl
  · rw [boundedNumber?_none, boundedNumber?]
    cases number? cs with
    | none => rfl
    | some a =>
      by_cases ha : b.contains a = true
      · simp [Option.filter, within, heldTo, Base.hold, ha]
      · simp [Option.filter, within, heldTo, Base.hold, missed, ha]

theorem readStep_some : readStep (some b) cs = heldTo (hold b) (.start b) (readStep none cs) := by
  unfold readStep
  split
  · split
    · rw [readBase_some]
      apply map_heldTo
      intro o
      rfl
    · rfl
  · rfl

/-- The parts of a list keep within the bounds if all their numbers do. -/
theorem mapM_boundedNumber?_some (parts : List (List Char)) :
    parts.mapM (boundedNumber? (some b)) =
      (parts.mapM number?).filter (fun vs => vs.all b.contains) := by
  induction parts with
  | nil => rfl
  | cons w parts ih =>
    rw [List.mapM_cons, List.mapM_cons, ih, boundedNumber?]
    cases number? w with
    | none => rfl
    | some v =>
      cases parts.mapM number? with
      | none => by_cases hv : b.contains v = true <;> simp [Option.filter, within, hv]
      | some vs =>
        by_cases hv : b.contains v = true
        · by_cases hvs : vs.all b.contains = true
          · simp [Option.filter, within, hv, hvs]
          · simp [Option.filter, within, hv, hvs]
        · simp [Option.filter, within, hv]

theorem readList_some : readList (some b) cs = heldTo (hold b) (.list b) (readList none cs) := by
  unfold readList
  rw [mapM_boundedNumber?_some, boundedNumber?_none]
  cases (cs.splitOn ',').mapM number? with
  | none => rfl
  | some vs =>
    by_cases hvs : vs.all b.contains = true
    · simp only [Option.filter, hvs, if_true, heldTo, hold]
    · simp only [Option.filter, hvs, heldTo, hold, missed]
      rfl

theorem readSingle_some :
    readSingle (some b) cs = heldTo (hold b) .shape (readSingle none cs) := by
  unfold readSingle
  cases number? cs with
  | none => rfl
  | some v => rfl

/-- **Reading within bounds is reading by the syntax and holding the pattern to the bounds.** -/
theorem readChars_some :
    readChars (some b) cs = heldTo (hold b) (shapeWithin b cs) (readChars none cs) := by
  unfold shapeWithin
  by_cases hblank : Text.AllBlank cs
  · rw [readChars_of_allBlank hblank, readChars_of_allBlank hblank]
    rfl
  by_cases hslash : '/' ∈ cs
  · rw [if_pos hslash, readChars_of_slash hslash, readChars_of_slash hslash, readStep_some]
  rw [if_neg hslash]
  by_cases hminus : '-' ∈ cs
  · rw [if_neg (fun h => h.2 hminus), readChars_of_hyphen hslash hminus,
      readChars_of_hyphen hslash hminus, readRange_some .shape]
    apply map_heldTo
    intro r
    rfl
  by_cases hcomma : ',' ∈ cs
  · rw [if_pos ⟨hcomma, hminus⟩, readChars_of_comma hslash hminus hcomma,
      readChars_of_comma hslash hminus hcomma, readList_some]
  rw [if_neg (fun h => hcomma h.1)]
  by_cases hstar : cs = ['*']
  · subst hstar
    rfl
  · rw [readChars_of_plain hblank hstar hslash hminus hcomma,
      readChars_of_plain hblank hstar hslash hminus hcomma, readSingle_some]

/-! ## The faults on either side -/

/-- The faults of the syntax. -/
def syntaxFaults : List Fault :=
  [.empty, .stepShape, .stepNumber, .rangeShape, .rangeNumber, .shape]

theorem mem_syntaxFaults_of_readRange {fault : Fault} (h : readRange none cs = .error fault) :
    fault ∈ syntaxFaults := by
  unfold readRange at h
  split at h
  · split at h
    · cases h
    · cases h
      decide
  · cases h
    decide

theorem mem_syntaxFaults_of_readBase {fault : Fault} (h : readBase none cs = .error fault) :
    fault ∈ syntaxFaults := by
  unfold readBase at h
  split at h
  · cases h
  split at h
  · exact mem_syntaxFaults_of_readRange (Outcome.map_eq_error_iff.mp h)
  split at h
  · cases h
  · cases h
    decide

theorem mem_syntaxFaults_of_readStep {fault : Fault} (h : readStep none cs = .error fault) :
    fault ∈ syntaxFaults := by
  unfold readStep at h
  split at h
  · split at h
    · exact mem_syntaxFaults_of_readBase (Outcome.map_eq_error_iff.mp h)
    · cases h
      decide
  · cases h
    decide

/-- Without bounds only faults of the syntax are met. -/
theorem mem_syntaxFaults_of_readChars {fault : Fault} (h : readChars none cs = .error fault) :
    fault ∈ syntaxFaults := by
  unfold readChars at h
  split at h
  · cases h
    decide
  split at h
  · cases h
  split at h
  · exact mem_syntaxFaults_of_readStep h
  split at h
  · exact mem_syntaxFaults_of_readRange (Outcome.map_eq_error_iff.mp h)
  split at h
  · unfold readList at h
    split at h
    · cases h
    · cases h
      decide
  · unfold readSingle at h
    split at h
    · cases h
      decide
    · cases h

/-- Two numbers are refused as the ends of the pattern that they belong to. -/
theorem misfit_of_checkRange {p : Pattern} {a z : UInt32} {fault : Fault}
    (hfirst : p.first? = some a) (hlast : p.last? = some z)
    (h : checkRange (some b) a z = .error fault) : Misfit b p fault := by
  rcases checkRange_eq_error_iff.mp h with ⟨ha, rfl⟩ | ⟨-, hz, rfl⟩ | ⟨-, -, hle, rfl⟩
  · exact .start hfirst ha
  · exact .stop hlast hz
  · exact .order hfirst hlast hle

/-- Bounds refuse a pattern for what its numbers are. -/
theorem misfit_of_hold {p : Pattern} {fault : Fault} (h : p.hold b = .error fault) :
    Misfit b p fault := by
  cases p with
  | any => cases h
  | single v =>
    cases hv : b.contains v with
    | true => simp [hold, hv] at h
    | false =>
      obtain rfl : Fault.number b = fault := by simpa [hold, hv] using h
      exact .number hv
  | list vs =>
    cases hvs : vs.all b.contains with
    | true => simp [hold, hvs] at h
    | false =>
      obtain rfl : Fault.list b = fault := by simpa [hold, hvs] using h
      obtain ⟨v, hv, hout⟩ := List.all_eq_false.mp hvs
      exact .list hv (eq_false_of_ne_true hout)
  | range a z => exact misfit_of_checkRange rfl rfl (Outcome.map_eq_error_iff.mp h)
  | step o n =>
    have ho : o.hold b = .error fault := Outcome.map_eq_error_iff.mp h
    cases o with
    | any => cases ho
    | start a =>
      cases ha : b.contains a with
      | true => simp [Base.hold, ha] at ho
      | false =>
        obtain rfl : Fault.start b = fault := by simpa [Base.hold, ha] using ho
        exact .start rfl ha
    | range a z => exact misfit_of_checkRange rfl rfl (Outcome.map_eq_error_iff.mp ho)

theorem mem_misfits_of_hold {p : Pattern} {fault : Fault} (h : p.hold b = .error fault) :
    fault ∈ misfits b := by
  cases misfit_of_hold h <;> simp [misfits]

/-- A fault of the syntax names no bounds. -/
theorem missed?_of_mem_syntaxFaults : ∀ fault ∈ syntaxFaults, fault.missed? = none := by decide

theorem eq_of_missed?_of_mem_misfits {fault : Fault} (h : fault ∈ misfits b) :
    ∀ c ∈ fault.missed?, c = b := by
  simp only [misfits, List.mem_cons, List.not_mem_nil, or_false] at h
  rcases h with rfl | rfl | rfl | rfl | rfl <;> simp [Fault.missed?, eq_comm]

theorem eq_of_missed?_shapeWithin : ∀ c ∈ (shapeWithin b cs).missed?, c = b := by
  unfold shapeWithin
  split
  · simp [Fault.missed?, eq_comm]
  split
  · simp [Fault.missed?, eq_comm]
  · simp [Fault.missed?]

end Pattern

/-! ## Fields -/

/-- What a field makes of a text, told by what the syntax makes of it. -/
structure Field.RefinesSyntax (f : Field) (text : String) : Prop where
  /-- The field reads what the syntax reads, if the numbers fit its bounds. -/
  accepts_iff : ∀ p, f.read text = .ok p ↔ Pattern.read text = .ok p ∧ p.Fits f.bounds
  /-- The stride of a step is above zero with bounds and without. -/
  stride_pos : ∀ o n, Pattern.read text = .ok (.step o n) → 1 ≤ n
  /-- A fault of the syntax is one of the field too, unless it is that of shape. -/
  same_fault : ∀ fault, Pattern.read text = .error fault → fault ≠ .shape →
    f.read text = .error fault
  /-- A fault of shape becomes one of the base behind a step, one of the parts in a list, and
  stays what it is in any other text. -/
  shape_fault : Pattern.read text = .error .shape →
    f.read text = .error (Pattern.shapeWithin f.bounds text.toList)
  /-- What the field refuses besides misses the bounds or does not ascend. -/
  misfit : ∀ p fault, Pattern.read text = .ok p → f.read text = .error fault →
    fault ∈ [.number f.bounds, .start f.bounds, .stop f.bounds, .order, .list f.bounds]
  /-- No fault names other bounds than those of the field. -/
  names_bounds : ∀ fault, f.read text = .error fault → ∀ b ∈ fault.missed?, b = f.bounds

/-- A field reads a text by the syntax and holds the pattern to its bounds. -/
theorem Field.read_eq_heldTo (f : Field) (text : String) :
    f.read text = Pattern.heldTo (Pattern.hold f.bounds)
      (Pattern.shapeWithin f.bounds text.toList) (Pattern.read text) :=
  Pattern.readChars_some

/-- **Bounds only refuse.**  What a field reads is what the syntax reads, and what it refuses
besides misses its bounds or does not ascend. -/
theorem Field.read_refinesSyntax (f : Field) (text : String) : f.RefinesSyntax text where
  accepts_iff := by
    intro p
    rw [Field.read, Pattern.read, Pattern.readChars_eq_ok_iff, Pattern.readChars_eq_ok_iff]
    simp
  stride_pos := fun o n h => (Pattern.readChars_eq_ok_iff.mp h).1.one_le_stride
  same_fault := by
    intro fault h hne
    rw [f.read_eq_heldTo, h]
    exact Pattern.heldTo_error_of_ne hne
  shape_fault := by
    intro h
    rw [f.read_eq_heldTo, h]
    rfl
  misfit := by
    intro p fault h hf
    rw [f.read_eq_heldTo, h] at hf
    exact Pattern.mem_misfits_of_hold hf
  names_bounds := by
    intro fault hf
    cases h : Pattern.read text with
    | ok p =>
      rw [f.read_eq_heldTo, h] at hf
      exact Pattern.eq_of_missed?_of_mem_misfits (Pattern.mem_misfits_of_hold hf)
    | error cause =>
      rw [f.read_eq_heldTo, h] at hf
      by_cases hshape : cause = .shape
      · subst hshape
        obtain rfl := Except.error.inj hf
        exact Pattern.eq_of_missed?_shapeWithin
      · rw [Pattern.heldTo_error_of_ne hshape] at hf
        obtain rfl := Except.error.inj hf
        have hsyntax := Pattern.mem_syntaxFaults_of_readChars h
        simp [Pattern.missed?_of_mem_syntaxFaults _ hsyntax]

/-- Two faults at once: the numbers are read, and the first of them misses the bounds. -/
example : Pattern.read "40-5/2" = .ok (.step (.range 40 5) 2) ∧
    Field.read .dayOfMonth "40-5/2" = .error (.start ⟨1, 31⟩) := by decide +kernel

end Cron
