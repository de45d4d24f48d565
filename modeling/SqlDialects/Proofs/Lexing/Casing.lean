import SqlDialects.Proofs.Lexing.Word

/-!
# The case of ASCII letters

Casing a text changes ASCII letters into ASCII letters and nothing else.  So it
makes no word of what is none, and since keywords are looked up in uppercase it
makes no keyword of what is none either.  Both are facts about single characters;
there are fifty-two that change, and they are gone through one by one.
-/

namespace SqlDialects
namespace Text

theorem isLower_iff {c : Char} : c.isLower = true ↔ 97 ≤ c.toNat ∧ c.toNat ≤ 122 := by
  show (decide (97 ≤ c.toNat) && decide (c.toNat ≤ 122)) = true ↔ _
  rw [Bool.and_eq_true, decide_eq_true_eq, decide_eq_true_eq]

theorem isUpper_iff {c : Char} : c.isUpper = true ↔ 65 ≤ c.toNat ∧ c.toNat ≤ 90 :=
  decide_eq_true_iff

/-- What holds of the lowercase letters, one by one, holds of any. -/
theorem forall_isLower {P : Char → Prop} (h : ∀ v ∈ List.range' 97 26, P (Char.ofNat v))
    {c : Char} (hc : c.isLower = true) : P c := by
  have hmem : c.toNat ∈ List.range' 97 26 := by
    obtain ⟨hlower, hupper⟩ := isLower_iff.1 hc
    rw [List.mem_range'_1]
    exact ⟨hlower, Nat.lt_succ_of_le hupper⟩
  have hP := h c.toNat hmem
  rwa [Char.ofNat_toNat] at hP

/-- What holds of the uppercase letters, one by one, holds of any. -/
theorem forall_isUpper {P : Char → Prop} (h : ∀ v ∈ List.range' 65 26, P (Char.ofNat v))
    {c : Char} (hc : c.isUpper = true) : P c := by
  have hmem : c.toNat ∈ List.range' 65 26 := by
    obtain ⟨hlower, hupper⟩ := isUpper_iff.1 hc
    rw [List.mem_range'_1]
    exact ⟨hlower, Nat.lt_succ_of_le hupper⟩
  have hP := h c.toNat hmem
  rwa [Char.ofNat_toNat] at hP

theorem toUpper_of_not_isLower {c : Char} (h : c.isLower = false) : c.toUpper = c := by
  unfold Char.toUpper
  rw [dif_neg]
  intro hc
  rw [isLower_iff.2 hc] at h
  cases h

/-- What casing leaves alone is no lowercase letter. -/
theorem not_isLower_of_toUpper {c : Char} (h : c.toUpper = c) : c.isLower = false := by
  cases hc : c.isLower with
  | false => rfl
  | true => exact absurd h (forall_isLower (P := fun c => c.toUpper ≠ c) (by decide) hc)

theorem toLower_of_not_isUpper {c : Char} (h : c.isUpper = false) : c.toLower = c := by
  unfold Char.toLower
  rw [dif_neg]
  intro hc
  rw [isUpper_iff.2 hc] at h
  cases h

theorem toUpper_toUpper (c : Char) : c.toUpper.toUpper = c.toUpper := by
  cases hc : c.isLower with
  | true => exact forall_isLower (P := fun c => c.toUpper.toUpper = c.toUpper) (by decide) hc
  | false => rw [toUpper_of_not_isLower hc, toUpper_of_not_isLower hc]

theorem toUpper_toLower (c : Char) : c.toLower.toUpper = c.toUpper := by
  cases hc : c.isUpper with
  | true => exact forall_isUpper (P := fun c => c.toLower.toUpper = c.toUpper) (by decide) hc
  | false => rw [toLower_of_not_isUpper hc]

theorem toLower_toLower (c : Char) : c.toLower.toLower = c.toLower := by
  cases hc : c.isUpper with
  | true => exact forall_isUpper (P := fun c => c.toLower.toLower = c.toLower) (by decide) hc
  | false => rw [toLower_of_not_isUpper hc, toLower_of_not_isUpper hc]

/-- A character stands in words just where the same one in uppercase does. -/
theorem contains_toUpper (c : Char) :
    Ansi.wordStart.contains c.toUpper = Ansi.wordStart.contains c ∧
      Ansi.wordRest.contains c.toUpper = Ansi.wordRest.contains c := by
  cases hc : c.isLower with
  | true =>
    exact forall_isLower (P := fun c => Ansi.wordStart.contains c.toUpper =
      Ansi.wordStart.contains c ∧ Ansi.wordRest.contains c.toUpper = Ansi.wordRest.contains c)
      (by decide) hc
  | false =>
    rw [toUpper_of_not_isLower hc]
    exact ⟨rfl, rfl⟩

theorem isWord_map {f : Char → Char} (hstart : ∀ c, Ansi.wordStart.contains (f c) =
    Ansi.wordStart.contains c) (hrest : ∀ c, Ansi.wordRest.contains (f c) =
    Ansi.wordRest.contains c) (s : List Char) : isWord (s.map f) = isWord s := by
  cases s with
  | nil => rfl
  | cons c cs =>
    rw [List.map_cons, isWord, isWord, hstart, List.all_map]
    congr 1
    congr 1
    funext d
    exact hrest d

/-- A text is a word whatever the case of its letters. -/
theorem isWord_toUpper (w : String) : isWord w.toUpper.toList = isWord w.toList := by
  show isWord (w.map Char.toUpper).toList = _
  rw [String.toList_map]
  exact isWord_map (fun c => (contains_toUpper c).1) (fun c => (contains_toUpper c).2) _

/-- Casing a text changes nothing for a later casing that no character shows it to. -/
theorem map_map_eq {f g : Char → Char} (h : ∀ c, g (f c) = g c) (w : String) :
    (w.map f).map g = w.map g := by
  apply String.toList_injective
  rw [String.toList_map, String.toList_map, String.toList_map, List.map_map]
  exact List.map_congr_left fun c _ => h c

/-- A word is looked up under the same key whatever the case of its letters. -/
theorem toUpper_apply (k : CallCase) (w : String) : (k.apply w).toUpper = w.toUpper := by
  cases k with
  | upper => exact map_map_eq toUpper_toUpper w
  | lower => exact map_map_eq toUpper_toLower w
  | asWritten => rfl

/-- A text in uppercase holds no lowercase letter. -/
theorem not_isLower_of_mem {w : String} (h : w.toUpper = w) :
    ∀ c ∈ w.toList, c.isLower = false := by
  have hmap : w.toList.map Char.toUpper = w.toList.map id := by
    rw [← String.toList_map, List.map_id]
    exact congrArg String.toList h
  intro c hc
  exact not_isLower_of_toUpper (List.map_inj_left.1 hmap c hc)

theorem toUpper_idem (w : String) : w.toUpper.toUpper = w.toUpper := toUpper_apply .upper w

theorem toLower_idem (w : String) : w.toLower.toLower = w.toLower := map_map_eq toLower_toLower w

end Text

end SqlDialects
