import Cron.Proofs.Text
import Mathlib.Data.List.Chain

/-! # Words

What the words of a text are when the text is put together from others.  A blank parts a text
into two whose words follow one another (`words_append_blank`), and all else comes from there:
texts joined by spaces keep their words (`words_intercalate`), blanks at the ends add none
(`words_surround`), and a text has one word exactly if trimming leaves a word
(`words_eq_singleton_iff`).

The way back is lossy, for of the blanks between two words nothing is kept.  Joining the words
of a text gives the text again only where single spaces part them
(`intercalate_words_eq_iff`).
-/
namespace Cron.Text

variable {c : Char} {cs w : List Char}

/-- A text that is not empty and holds no blank. -/
def IsWord (w : List Char) : Prop := w ≠ [] ∧ ∀ c ∈ w, isBlank c = false

instance : Decidable (IsWord w) :=
  decidable_of_iff ((!w.isEmpty && w.all fun c => !isBlank c) = true) (by simp [IsWord])

theorem IsWord.tight (h : IsWord w) : Tight w :=
  ⟨fun c hc => h.2 c (List.mem_of_head? hc), fun c hc => h.2 c (List.mem_of_getLast? hc)⟩

/-! ## Words of texts that are put together -/

@[simp] theorem words_nil : words [] = [] := rfl

/-- A blank parts the words before it from those after it. -/
theorem words_append_blank (hc : isBlank c = true) (before after : List Char) :
    words (before ++ c :: after) = words before ++ words after := by
  rw [words, List.splitOnP_append_cons _ _ hc, List.filter_append]
  rfl

theorem words_of_isWord (h : IsWord w) : words w = [w] := by
  rw [words, List.splitOnP_eq_singleton h.2]
  simp [h.1]

theorem isWord_of_mem_words (h : w ∈ words cs) : IsWord w := by
  obtain ⟨hw, hne⟩ := List.mem_filter.mp h
  exact ⟨by simpa using hne, forall_not_of_mem_splitOnP hw⟩

/-- A character other than a blank belongs to a word. -/
theorem words_cons_ne_nil (hc : isBlank c = false) (cs : List Char) : words (c :: cs) ≠ [] := by
  obtain ⟨w, rest, hs⟩ := List.exists_cons_of_ne_nil (List.splitOnP_ne_nil isBlank cs)
  simp [words, List.splitOnP_cons_eq_if_modifyHead, hc, hs]

theorem words_eq_nil_iff : words cs = [] ↔ AllBlank cs := by
  induction cs with
  | nil => simp [AllBlank]
  | cons a cs ih =>
    cases ha : isBlank a with
    | true =>
      have hskip : words (a :: cs) = words cs := words_append_blank ha [] cs
      simp [hskip, ih, AllBlank, ha]
    | false => simp [words_cons_ne_nil ha, AllBlank, ha]

theorem words_append_allBlank {after : List Char} (ha : AllBlank after) :
    words (cs ++ after) = words cs := by
  cases after with
  | nil => rw [List.append_nil]
  | cons c after =>
    have hrest : words after = [] :=
      words_eq_nil_iff.mpr fun d hd => ha d (List.mem_cons_of_mem _ hd)
    rw [words_append_blank (ha c List.mem_cons_self), hrest, List.append_nil]

theorem words_allBlank_append {before : List Char} (hb : AllBlank before) :
    words (before ++ cs) = words cs := by
  rcases List.eq_nil_or_concat' before with rfl | ⟨init, c, rfl⟩
  · rfl
  · have hinit : words init = [] :=
      words_eq_nil_iff.mpr fun d hd => hb d (by simp [hd])
    rw [List.append_assoc, List.singleton_append, words_append_blank (hb c (by simp)), hinit]
    rfl

/-- Blanks around a text add no words to it. -/
theorem words_surround {before after : List Char} (hb : AllBlank before) (ha : AllBlank after) :
    words (before ++ cs ++ after) = words cs := by
  rw [words_append_allBlank ha, words_allBlank_append hb]

theorem words_trim (cs : List Char) : words (trim cs) = words cs := by
  obtain ⟨before, after, hb, ha, he⟩ := exists_surround cs
  calc words (trim cs) = words (before ++ trim cs ++ after) := (words_surround hb ha).symm
    _ = words cs := by rw [← he]

/-- Texts joined by spaces have the words of each, one text after the other. -/
theorem words_intercalate (texts : List (List Char)) :
    words ([' '].intercalate texts) = texts.flatMap words := by
  induction texts with
  | nil => rfl
  | cons t texts ih =>
    rcases eq_or_ne texts [] with rfl | hne
    · simp
    · rw [intercalate_cons hne, words_append_blank (by decide), ih, List.flatMap_cons]

/-- Words joined by spaces are found again. -/
theorem words_intercalate_of_isWord {ws : List (List Char)} (h : ∀ w ∈ ws, IsWord w) :
    words ([' '].intercalate ws) = ws := by
  rw [words_intercalate]
  induction ws with
  | nil => rfl
  | cons w ws ih =>
    rw [List.flatMap_cons, words_of_isWord (h w List.mem_cons_self),
      ih fun v hv => h v (List.mem_cons_of_mem _ hv)]
    rfl

/-! ## One word -/

/-- Without blanks at its ends a text with a blank in it has two words or more. -/
theorem two_le_length_words (ht : Tight cs) (hc : c ∈ cs) (hb : isBlank c = true) :
    2 ≤ (words cs).length := by
  obtain ⟨before, after, rfl⟩ := List.append_of_mem hc
  have hbefore : words before ≠ [] := by
    cases before with
    | nil => exact absurd (hb.symm.trans (ht.1 c rfl)) (by decide)
    | cons d before => exact words_cons_ne_nil (ht.1 d rfl) before
  have hafter : words after ≠ [] := by
    intro hnil
    -- otherwise the last character were one of the blanks that end the text
    have hall : AllBlank (c :: after) :=
      List.forall_mem_cons.mpr ⟨hb, words_eq_nil_iff.mp hnil⟩
    have hne := List.cons_ne_nil c after
    have hlast := ht.2 ((c :: after).getLast hne) (by
      rw [List.getLast?_append, List.getLast?_eq_some_getLast hne]
      rfl)
    exact absurd ((hall _ (List.getLast_mem hne)).symm.trans hlast) (by decide)
  have h₁ := List.length_pos_iff.mpr hbefore
  have h₂ := List.length_pos_iff.mpr hafter
  rw [words_append_blank hb, List.length_append]
  omega

/-- A text has a single word exactly if the word is all that trimming leaves of it. -/
theorem words_eq_singleton_iff : words cs = [w] ↔ IsWord w ∧ trim cs = w := by
  constructor
  · intro h
    rw [← words_trim] at h
    have hword : IsWord (trim cs) := by
      refine ⟨?_, fun c hc => ?_⟩
      · intro he
        rw [he] at h
        cases h
      · by_contra hb
        have htwo := two_le_length_words (tight_trim cs) hc (by simpa using hb)
        rw [h, List.length_singleton] at htwo
        omega
    rw [words_of_isWord hword] at h
    obtain ⟨rfl, -⟩ := List.cons.inj h
    exact ⟨hword, rfl⟩
  · rintro ⟨hw, rfl⟩
    rw [← words_trim, words_of_isWord hw]

/-! ## Single spaces -/

/-- The only blanks of the text are single spaces between other characters. -/
structure SinglySpaced (cs : List Char) : Prop where
  /-- No blank stands at either end. -/
  tight : Tight cs
  /-- Every blank is a space, ... -/
  eq_space : ∀ c ∈ cs, isBlank c = true → c = ' '
  /-- ... and none is followed by another. -/
  isChain : cs.IsChain fun c d => isBlank c = true → isBlank d = false

theorem IsWord.singlySpaced (h : IsWord w) : SinglySpaced w where
  tight := h.tight
  eq_space := fun c hc hb => absurd (hb.symm.trans (h.2 c hc)) (by decide)
  isChain := by
    have hpair : w.Pairwise fun c d => isBlank c = true → isBlank d = false :=
      List.pairwise_of_forall_mem_list fun _ _ d hd _ => h.2 d hd
    exact hpair.isChain

/-- A word may be put in front of a singly spaced text with a space between them. -/
theorem IsWord.singlySpaced_append {rest : List Char} (hw : IsWord w) (hr : SinglySpaced rest)
    (hne : rest ≠ []) : SinglySpaced (w ++ ' ' :: rest) where
  tight := by
    constructor
    · rw [List.head?_append, List.head?_eq_some_head hw.1, Option.some_or,
        ← List.head?_eq_some_head]
      exact hw.tight.1
    · rw [List.getLast?_append, List.getLast?_cons, List.getLast?_eq_some_getLast hne]
      simpa [List.getLast?_eq_some_getLast hne] using hr.tight.2
  eq_space := by
    intro c hc hb
    rcases List.mem_append.mp hc with hc | hc
    · exact hw.singlySpaced.eq_space c hc hb
    · rcases List.mem_cons.mp hc with rfl | hc
      · rfl
      · exact hr.eq_space c hc hb
  isChain := by
    refine hw.singlySpaced.isChain.append ?_ fun c hc _ _ hb => ?_
    · exact List.isChain_cons.mpr ⟨fun d hd _ => hr.tight.1 d hd, hr.isChain⟩
    · exact absurd (hb.symm.trans (hw.tight.2 c hc)) (by decide)

theorem singlySpaced_intercalate {ws : List (List Char)} (h : ∀ w ∈ ws, IsWord w) :
    SinglySpaced ([' '].intercalate ws) := by
  induction ws with
  | nil => exact ⟨by simp [Tight], by simp, by simp⟩
  | cons w ws ih =>
    have hw := h w List.mem_cons_self
    have hws : ∀ v ∈ ws, IsWord v := fun v hv => h v (List.mem_cons_of_mem _ hv)
    rcases eq_or_ne ws [] with rfl | hne
    · rw [List.intercalate_singleton]
      exact hw.singlySpaced
    · rw [intercalate_cons hne]
      refine hw.singlySpaced_append (ih hws) fun he => hne ?_
      rw [← words_intercalate_of_isWord hws, he]
      rfl

/-- What follows a space of a singly spaced text is not empty and singly spaced too. -/
theorem SinglySpaced.of_append {rest : List Char} (h : SinglySpaced (w ++ ' ' :: rest)) :
    rest ≠ [] ∧ SinglySpaced rest := by
  have hchain := List.isChain_cons.mp h.isChain.right_of_append
  refine ⟨?_, ⟨fun a ha => hchain.1 a ha (by decide), fun a ha => h.tight.2 a ?_⟩, fun a ha => ?_,
    hchain.2⟩
  · rintro rfl
    exact absurd (h.tight.2 ' ' (by simp)) (by decide)
  · rw [List.getLast?_append, List.getLast?_cons, Option.mem_def.mp ha]
    rfl
  · exact h.eq_space a (by simp [ha])

/-- A singly spaced text is empty, a word, or a word in front of another such text. -/
theorem SinglySpaced.cases (h : SinglySpaced cs) :
    cs = [] ∨ IsWord cs ∨
      ∃ w rest, IsWord w ∧ SinglySpaced rest ∧ rest ≠ [] ∧ cs = w ++ ' ' :: rest := by
  by_cases hblank : ∃ c ∈ cs, isBlank c = true
  · -- the first blank is the space that ends the first word
    obtain ⟨d, hd, hdb⟩ := hblank
    obtain ⟨c, w, rest, hw, hc, rfl, -⟩ := List.exists_of_eraseP hd hdb
    obtain rfl := h.eq_space c (by simp) hc
    obtain ⟨hne, hrest⟩ := h.of_append
    have hword : w ≠ [] := by
      rintro rfl
      exact absurd (h.tight.1 ' ' rfl) (by decide)
    exact Or.inr (Or.inr ⟨w, rest, ⟨hword, fun a ha => eq_false_of_ne_true (hw a ha)⟩, hrest, hne,
      rfl⟩)
  · rcases eq_or_ne cs [] with hnil | hne
    · exact Or.inl hnil
    · have hall : ∀ c ∈ cs, isBlank c = false :=
        fun c hc => eq_false_of_ne_true fun hb => hblank ⟨c, hc, hb⟩
      exact Or.inr (Or.inl ⟨hne, hall⟩)

/-- The words of a singly spaced text, joined by spaces, are the text again. -/
theorem SinglySpaced.intercalate_words (h : SinglySpaced cs) :
    [' '].intercalate (words cs) = cs := by
  -- each step takes a word off the text, so the text gets shorter
  induction hn : cs.length using Nat.strong_induction_on generalizing cs with
  | _ n ih =>
    rcases h.cases with rfl | hw | ⟨w, rest, hw, hr, hne, rfl⟩
    · rfl
    · rw [words_of_isWord hw, List.intercalate_singleton]
    · have hrest : [' '].intercalate (words rest) = rest :=
        ih rest.length (by simp [← hn]; omega) hr rfl
      have hwords : words rest ≠ [] := by
        intro he
        rw [he] at hrest
        exact hne hrest.symm
      rw [words_append_blank (by decide), words_of_isWord hw, List.singleton_append,
        intercalate_cons hwords, hrest]

/-- **The words of a text, joined by spaces, are the text again exactly if it is singly
spaced.** -/
theorem intercalate_words_eq_iff : [' '].intercalate (words cs) = cs ↔ SinglySpaced cs := by
  constructor
  · intro h
    rw [← h]
    exact singlySpaced_intercalate fun _ => isWord_of_mem_words
  · exact SinglySpaced.intercalate_words

end Cron.Text
