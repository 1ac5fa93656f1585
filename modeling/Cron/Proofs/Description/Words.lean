import Cron.Description
import Cron.Proofs.Text.Words

/-! # The words of a description

A description is a row of words with single spaces between them, and which words they are is
told by the fields, one after the other (`expressionWords`).  So its words are found by cutting
it (`words_ofExpression`), as long as the texts of the fields are words themselves and a stride
has something to count by.
-/
namespace Cron.Description

open Text (IsWord words)

variable {text : String} {n : List Char} {e : Expression}

/-! ## The words of a description -/

/-- The unit of a count, in the singular or the plural. -/
def unitOf (count : List Char) (unit : String) : String :=
  unit ++ (if isPlural count then "s" else "")

/-- The words of the phrase of the hour. -/
def hourWords (text : String) : List String :=
  if text = "*" then ["of", "every", "hour"]
  else
    match stride? text.toList with
    | some n => ["every", .ofList n, unitOf n "hour"]
    | none => ["past", "hour", text]

/-- The words of the phrase of the day of the month. -/
def dayWords (text : String) : List String :=
  if text = "*" then []
  else if text.toList.contains ',' || text.toList.contains '-' then ["on", "days", text]
  else ["on", "day", text]

/-- The words of the phrase of the month. -/
def monthWords (text : String) : List String :=
  if text = "*" then [] else ["in", "month", text]

/-- The words of the phrase of the day of the week. -/
def weekdayWords (text : String) : List String :=
  if text = "*" then []
  else if text = "1-5" then ["on", "weekdays"]
  else if text = "0,6" ∨ text = "6,0" then ["on", "weekends"]
  else ["on", "day-of-week", text]

/-- The words of all phrases but that of the minute. -/
def laterWords (e : Expression) : List String :=
  hourWords e.hour ++ dayWords e.dayOfMonth ++ monthWords e.month ++ weekdayWords e.dayOfWeek

/-- The words of the description of an expression whose minute is not `*`. -/
def expressionWords (e : Expression) : List String :=
  match stride? e.minute.toList with
  | some n =>
    if minuteOnly e then ["Every", .ofList n, unitOf n "minute"]
    else "Every" :: .ofList n :: (unitOf n "minute" ++ ",") :: laterWords e
  | none => "At" :: "minute" :: e.minute :: laterWords e

/-! ## Phrases -/

/-- Words, each with a space before it. -/
def spaced (ws : List String) : List Char := ws.flatMap fun w => ' ' :: w.toList

theorem spaced_append (vs ws : List String) : spaced (vs ++ ws) = spaced vs ++ spaced ws :=
  List.flatMap_append

theorem toList_hourPhrase (text : String) : (hourPhrase text).toList = spaced (hourWords text) := by
  unfold hourPhrase hourWords
  split
  · rfl
  cases stride? text.toList with
  | some n => simp [spaced, counted, unitOf]
  | none => simp [spaced]

theorem toList_dayPhrase (text : String) : (dayPhrase text).toList = spaced (dayWords text) := by
  unfold dayPhrase dayWords
  split
  · rfl
  split <;> simp [spaced]

theorem toList_monthPhrase (text : String) :
    (monthPhrase text).toList = spaced (monthWords text) := by
  unfold monthPhrase monthWords
  split
  · rfl
  · simp [spaced]

theorem toList_weekdayPhrase (text : String) :
    (weekdayPhrase text).toList = spaced (weekdayWords text) := by
  unfold weekdayPhrase weekdayWords
  split
  · rfl
  split
  · rfl
  split
  · rfl
  · simp [spaced]

theorem toList_laterPhrases (e : Expression) : (laterPhrases e).toList = spaced (laterWords e) := by
  simp only [laterPhrases, laterWords, String.toList_append, spaced_append, toList_hourPhrase,
    toList_dayPhrase, toList_monthPhrase, toList_weekdayPhrase]

theorem cons_toList_ofExpression (h : e.minute ≠ "*") :
    ' ' :: (ofExpression e).toList = spaced (expressionWords e) := by
  unfold ofExpression expressionWords
  rw [if_neg h]
  cases stride? e.minute.toList with
  | some n =>
    by_cases honly : minuteOnly e = true
    · simp [spaced, counted, unitOf, honly]
    · simp [spaced, counted, unitOf, honly, toList_laterPhrases]
  | none => simp [spaced, toList_laterPhrases]

theorem words_append_spaced {w : List Char} (hw : IsWord w) (ws : List String) :
    words (w ++ spaced ws) = w :: words (spaced ws) := by
  cases ws with
  | nil =>
    have hnil : spaced [] = [] := rfl
    rw [hnil, List.append_nil, Text.words_of_isWord hw]
    rfl
  | cons v ws =>
    have hcons : spaced (v :: ws) = ' ' :: (v.toList ++ spaced ws) := rfl
    have hblank : Text.isBlank ' ' = true := by decide
    rw [hcons, Text.words_append_blank hblank, Text.words_of_isWord hw]
    exact congrArg _ (Text.words_append_blank hblank [] _).symm

/-- Words with spaces before them are the words of the whole. -/
theorem words_spaced {ws : List String} (h : ∀ w ∈ ws, IsWord w.toList) :
    words (spaced ws) = ws.map String.toList := by
  induction ws with
  | nil => rfl
  | cons w ws ih =>
    have hcons : spaced (w :: ws) = [] ++ ' ' :: (w.toList ++ spaced ws) := rfl
    rw [hcons, Text.words_append_blank (by decide), words_append_spaced (h w List.mem_cons_self),
      ih fun v hv => h v (List.mem_cons_of_mem _ hv)]
    rfl

/-! ## Words -/

/-- A text that is a word and more than the mark of a stride. -/
def IsToken (text : String) : Prop := IsWord text.toList ∧ text ≠ "*/"

theorem eq_of_stride?_eq_some (h : stride? text.toList = some n) : text = "*/" ++ .ofList n := by
  unfold stride? at h
  split at h
  · rename_i m htext
    obtain rfl := Option.some.inj h
    rw [← String.toList_inj, htext]
    simp
  · cases h

theorem IsToken.isWord_stride (h : IsToken text) (hn : stride? text.toList = some n) :
    IsWord n := by
  have htext := eq_of_stride?_eq_some hn
  refine ⟨?_, fun c hc => h.1.2 c ?_⟩
  · rintro rfl
    exact h.2 htext
  · rw [htext]
    simp [hc]

theorem isWord_unitOf (n : List Char) :
    IsWord (unitOf n "hour").toList ∧ IsWord (unitOf n "minute").toList ∧
      IsWord (unitOf n "minute" ++ ",").toList := by
  unfold unitOf
  cases isPlural n <;> decide

theorem isWord_of_mem_hourWords (h : IsToken text) : ∀ w ∈ hourWords text, IsWord w.toList := by
  unfold hourWords
  split
  · decide
  cases hn : stride? text.toList with
  | some n =>
    simp only [List.forall_mem_cons, String.toList_ofList]
    exact ⟨by decide, h.isWord_stride hn, (isWord_unitOf n).1, nofun⟩
  | none =>
    simp only [List.forall_mem_cons]
    exact ⟨by decide, by decide, h.1, nofun⟩

theorem isWord_of_mem_dayWords (h : IsToken text) : ∀ w ∈ dayWords text, IsWord w.toList := by
  unfold dayWords
  split
  · decide
  split
  all_goals
    simp only [List.forall_mem_cons]
    exact ⟨by decide, by decide, h.1, nofun⟩

theorem isWord_of_mem_monthWords (h : IsToken text) : ∀ w ∈ monthWords text, IsWord w.toList := by
  unfold monthWords
  split
  · decide
  · simp only [List.forall_mem_cons]
    exact ⟨by decide, by decide, h.1, nofun⟩

theorem isWord_of_mem_weekdayWords (h : IsToken text) :
    ∀ w ∈ weekdayWords text, IsWord w.toList := by
  unfold weekdayWords
  split
  · decide
  split
  · decide
  split
  · decide
  · simp only [List.forall_mem_cons]
    exact ⟨by decide, by decide, h.1, nofun⟩

theorem isWord_of_mem_laterWords (h : ∀ f, IsToken (e.get f)) :
    ∀ w ∈ laterWords e, IsWord w.toList := by
  unfold laterWords
  simp only [List.forall_mem_append]
  exact ⟨⟨⟨isWord_of_mem_hourWords (h .hour), isWord_of_mem_dayWords (h .dayOfMonth)⟩,
    isWord_of_mem_monthWords (h .month)⟩, isWord_of_mem_weekdayWords (h .dayOfWeek)⟩

theorem isWord_of_mem_expressionWords (h : ∀ f, IsToken (e.get f)) :
    ∀ w ∈ expressionWords e, IsWord w.toList := by
  have hlater := isWord_of_mem_laterWords h
  unfold expressionWords
  cases hn : stride? e.minute.toList with
  | some n =>
    have hstride : IsWord (String.ofList n).toList := by
      rw [String.toList_ofList]
      exact (h .minute).isWord_stride hn
    obtain ⟨-, hunit, hcomma⟩ := isWord_unitOf n
    dsimp only
    split
    · simp only [List.forall_mem_cons]
      exact ⟨by decide, hstride, hunit, nofun⟩
    · simp only [List.forall_mem_cons]
      exact ⟨by decide, hstride, hcomma, hlater⟩
  | none =>
    simp only [List.forall_mem_cons]
    exact ⟨by decide, by decide, (h .minute).1, hlater⟩

/-- **The words of a description are those that the fields tell.** -/
theorem words_ofExpression (h : ∀ f, IsToken (e.get f)) (hminute : e.minute ≠ "*") :
    words (ofExpression e).toList = (expressionWords e).map String.toList := by
  have hblank : Text.isBlank ' ' = true := by decide
  have hcons : words (' ' :: (ofExpression e).toList) = words (ofExpression e).toList :=
    Text.words_append_blank hblank [] _
  rw [← hcons, cons_toList_ofExpression hminute,
    words_spaced (isWord_of_mem_expressionWords h)]

end Cron.Description
