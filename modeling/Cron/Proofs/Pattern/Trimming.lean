import Cron.Proofs.Pattern.Reading
import Cron.Proofs.Text.Words

/-! # Trimmed field texts

Blanks at the ends of a field text do not matter to what it spells: a text that spells a pattern
still does so once it is trimmed (`Spells.trim`), and so it is read as the same pattern
(`readChars_trim`).  The reverse fails where the blanks would stand next to a star, which is
taken as it is written.

The blanks go one end after the other.  A mark of the text is not among them, so each form is
parted at the same mark as before, and the blanks are left to the first or the last numeral,
where they do not count.
-/
namespace Cron.Pattern

open Text (AllBlank isBlank trim)

variable {cs ws : List Char}

/-- Numerals that trimming makes alike are one number. -/
theorem IsNumber.of_trim_eq {v : UInt32} (h : IsNumber ws v) (ht : trim cs = trim ws) :
    IsNumber cs v := by
  rw [← number?_eq_some_iff] at h ⊢
  rwa [number?, ht]

/-! ## Blanks in front -/

section Front

variable {before : List Char} (hb : AllBlank before)

include hb

theorem IsNumber.of_allBlank_append {v : UInt32} (h : IsNumber (before ++ cs) v) :
    IsNumber cs v :=
  h.of_trim_eq (Text.trim_allBlank_append hb).symm

theorem eq_star_of_allBlank_append (h : before ++ cs = ['*']) : cs = ['*'] := by
  have he : before ++ cs = [] ++ '*' :: [] := h
  obtain ⟨x, hx, rfl⟩ := Text.exists_of_allBlank_append_eq hb (by decide) he
  rw [(List.append_eq_nil_iff.mp hx.symm).2]
  rfl

theorem IsSpan.of_allBlank_append {a z : UInt32} (h : IsSpan (before ++ cs) a z) :
    IsSpan cs a z := by
  obtain ⟨x, y, hx, hy, he⟩ := h
  obtain ⟨x', rfl, hcs⟩ := Text.exists_of_allBlank_append_eq hb (by decide) he
  exact ⟨x', y, hx.of_allBlank_append hb, hy, hcs⟩

theorem SpellsBase.of_allBlank_append {o : Base} (h : SpellsBase (before ++ cs) o) :
    SpellsBase cs o := by
  generalize he : before ++ cs = ws at h
  cases h with
  | any => exact eq_star_of_allBlank_append hb he ▸ .any
  | start hnum => exact .start (IsNumber.of_allBlank_append hb (he ▸ hnum))
  | range hspan => exact .range (IsSpan.of_allBlank_append hb (he ▸ hspan))

theorem Spells.of_allBlank_append {p : Pattern} (h : Spells (before ++ cs) p) : Spells cs p := by
  generalize he : before ++ cs = ws at h
  cases h with
  | any => exact eq_star_of_allBlank_append hb he ▸ .any
  | single hnum => exact .single (IsNumber.of_allBlank_append hb (he ▸ hnum))
  | @list parts vs hlen hvs =>
    -- the blanks belong to the first of the parts
    obtain ⟨w, rest, rfl⟩ := List.exists_cons_of_length_pos (by omega : 0 < parts.length)
    have hrest : rest ≠ [] := by
      rintro rfl
      simp at hlen
    rw [Text.intercalate_cons hrest] at he
    obtain ⟨w', rfl, rfl⟩ := Text.exists_of_allBlank_append_eq hb (by decide) he
    obtain ⟨v, us, hv, hus, rfl⟩ := List.forall₂_cons_left_iff.mp hvs
    have hspells : Spells ([','].intercalate (w' :: rest)) (.list (v :: us)) :=
      .list hlen (.cons (hv.of_allBlank_append hb) hus)
    rwa [Text.intercalate_cons hrest] at hspells
  | range hspan => exact .range (IsSpan.of_allBlank_append hb (he ▸ hspan))
  | step hbase hstride hpos =>
    obtain ⟨base, rfl, rfl⟩ := Text.exists_of_allBlank_append_eq hb (by decide) he
    exact .step (hbase.of_allBlank_append hb) hstride hpos

end Front

/-! ## Blanks behind -/

section Behind

variable {after : List Char} (ha : AllBlank after)

include ha

theorem IsNumber.of_append_allBlank {v : UInt32} (h : IsNumber (cs ++ after) v) :
    IsNumber cs v :=
  h.of_trim_eq (Text.trim_append_allBlank ha).symm

theorem IsSpan.of_append_allBlank {a z : UInt32} (h : IsSpan (cs ++ after) a z) :
    IsSpan cs a z := by
  obtain ⟨x, y, hx, hy, he⟩ := h
  obtain ⟨y', rfl, hcs⟩ := Text.exists_of_append_allBlank_eq ha (by decide) he
  exact ⟨x, y', hx, hy.of_append_allBlank ha, hcs⟩

/-- The blanks behind a list belong to the last of its parts. -/
theorem exists_parts_of_append_allBlank {parts : List (List Char)} {vs : List UInt32}
    (hvs : List.Forall₂ IsNumber parts vs) (hne : parts ≠ [])
    (he : cs ++ after = [','].intercalate parts) :
    ∃ parts', parts'.length = parts.length ∧ List.Forall₂ IsNumber parts' vs ∧
      cs = [','].intercalate parts' := by
  induction hvs generalizing cs with
  | nil => exact absurd rfl hne
  | @cons w v parts vs hw hvs ih =>
    rcases eq_or_ne parts [] with rfl | hparts
    · rw [List.intercalate_singleton] at he
      subst he
      exact ⟨[cs], rfl, .cons (hw.of_append_allBlank ha) hvs, by simp⟩
    · rw [Text.intercalate_cons hparts] at he
      obtain ⟨y, hy, rfl⟩ := Text.exists_of_append_allBlank_eq ha (by decide) he
      obtain ⟨parts', hlen, hvs', rfl⟩ := ih hparts hy.symm
      have hparts' : parts' ≠ [] := by
        rintro rfl
        exact hparts (List.length_eq_zero_iff.mp hlen.symm)
      refine ⟨w :: parts', by simp [hlen], .cons hw hvs', ?_⟩
      rw [Text.intercalate_cons hparts']

theorem Spells.of_append_allBlank {p : Pattern} (h : Spells (cs ++ after) p) : Spells cs p := by
  generalize he : cs ++ after = ws at h
  cases h with
  | any =>
    have hstar : cs ++ after = [] ++ '*' :: [] := he
    obtain ⟨y, hy, rfl⟩ := Text.exists_of_append_allBlank_eq ha (by decide) hstar
    rw [(List.append_eq_nil_iff.mp hy.symm).1]
    exact .any
  | single hnum => exact .single (IsNumber.of_append_allBlank ha (he ▸ hnum))
  | @list parts vs hlen hvs =>
    have hne : parts ≠ [] := by
      rintro rfl
      simp at hlen
    obtain ⟨parts', hlen', hvs', rfl⟩ := exists_parts_of_append_allBlank ha hvs hne he
    exact .list (hlen'.symm ▸ hlen) hvs'
  | range hspan => exact .range (IsSpan.of_append_allBlank ha (he ▸ hspan))
  | step hbase hstride hpos =>
    obtain ⟨stride, rfl, rfl⟩ := Text.exists_of_append_allBlank_eq ha (by decide) he
    exact .step hbase (hstride.of_append_allBlank ha) hpos

end Behind

/-! ## Both ends -/

/-- Trimming does not change what a text spells. -/
theorem Spells.trim {p : Pattern} (h : Spells cs p) : Spells (Text.trim cs) p := by
  obtain ⟨before, after, hb, ha, he⟩ := Text.exists_surround cs
  rw [he] at h
  exact (h.of_append_allBlank ha).of_allBlank_append hb

/-- A text that is read is read as the same pattern once it is trimmed. -/
theorem readChars_trim {limits : Option Bounds} {p : Pattern} (h : readChars limits cs = .ok p) :
    readChars limits (trim cs) = .ok p := by
  obtain ⟨hspells, hfits⟩ := readChars_eq_ok_iff.mp h
  exact readChars_eq_ok_iff.mpr ⟨hspells.trim, hfits⟩

/-- A text that is read has a word in it. -/
theorem words_ne_nil_of_readChars {limits : Option Bounds} {p : Pattern}
    (h : readChars limits cs = .ok p) : Text.words cs ≠ [] := by
  intro hnil
  have htrim : trim cs = [] := Text.trim_eq_nil_iff.mpr (Text.words_eq_nil_iff.mp hnil)
  rw [readChars, htrim] at h
  cases h

end Cron.Pattern
