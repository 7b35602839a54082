/-
Text as Python treats it.
-/
import ControlPlane.Lib.Bytes
import Mathlib.Data.List.TakeWhile

namespace ControlPlane

/-- `str.isspace` of one character. -/
def isSpace (c : Char) : Bool :=
  let n := c.toNat
  (9 ≤ n && n ≤ 13) || (28 ≤ n && n ≤ 32) || n == 0x85 || n == 0xa0 || n == 0x1680
    || (0x2000 ≤ n && n ≤ 0x200a) || n == 0x2028 || n == 0x2029 || n == 0x202f || n == 0x205f
    || n == 0x3000

/-- `value or fallback`. -/
def textOr (value : Option String) (fallback : String) : String :=
  match value with
  | none | some "" => fallback
  | some text => text

/-- `str.strip()`. -/
@[irreducible]
def strip (text : String) : String :=
  let kept := text.toList.dropWhile isSpace
  String.ofList (kept.reverse.dropWhile isSpace).reverse

example : strip "\t a b\n" = "a b" := by decide +kernel

theorem strip_toList (text : String) : (strip text).toList
    = ((text.toList.dropWhile isSpace).reverse.dropWhile isSpace).reverse := by
  unfold strip
  simp

/-- What is left has no white space at its start. -/
theorem dropWhile_isSpace (chars : List Char) :
    (chars.dropWhile isSpace).dropWhile isSpace = chars.dropWhile isSpace := by
  induction chars with
  | nil => rfl
  | cons c rest ih =>
      by_cases hc : isSpace c = true
      · rw [List.dropWhile_cons_of_pos hc]
        exact ih
      · rw [List.dropWhile_cons_of_neg hc, List.dropWhile_cons_of_neg hc]

theorem strip_strip (text : String) : strip (strip text) = strip text := by
  apply String.toList_inj.mp
  rw [strip_toList (strip text), strip_toList text]
  generalize hkept : text.toList.dropWhile isSpace = kept
  have hfront : kept.dropWhile isSpace = kept := by
    rw [← hkept]
    exact dropWhile_isSpace _
  -- what is dropped at the end does not touch the start
  have hprefix : (kept.reverse.dropWhile isSpace).reverse <+: kept := by
    have := (List.dropWhile_suffix isSpace (l := kept.reverse)).reverse
    simpa using this
  have hstart : (kept.reverse.dropWhile isSpace).reverse.dropWhile isSpace
      = (kept.reverse.dropWhile isSpace).reverse := by
    obtain ⟨rest, hrest⟩ := hprefix
    cases hstripped : (kept.reverse.dropWhile isSpace).reverse with
    | nil => rfl
    | cons c later =>
        rw [hstripped] at hrest
        rw [← hrest, List.cons_append] at hfront
        have hc : ¬ isSpace c = true := by
          intro hc
          rw [List.dropWhile_cons_of_pos hc] at hfront
          have hlength := (List.dropWhile_suffix isSpace (l := later ++ rest)).length_le
          rw [hfront] at hlength
          simp only [List.length_cons] at hlength
          omega
        exact List.dropWhile_cons_of_neg hc
  rw [hstart, List.reverse_reverse, dropWhile_isSpace]

theorem mem_of_mem_strip {text : String} {c : Char} (h : c ∈ (strip text).toList) :
    c ∈ text.toList := by
  rw [strip_toList, List.mem_reverse] at h
  have hmem := (List.dropWhile_suffix isSpace).subset h
  rw [List.mem_reverse] at hmem
  exact (List.dropWhile_suffix isSpace).subset hmem

/-- A text with a character that is no white space is not blank. -/
theorem strip_ne_empty {text : String} {c : Char} (hc : c ∈ text.toList)
    (hspace : isSpace c = false) : strip text ≠ "" := by
  intro hblank
  have hkept := strip_toList text
  rw [hblank, String.toList_empty, eq_comm, List.reverse_eq_nil_iff,
    List.dropWhile_eq_nil_iff] at hkept
  -- all that is kept would be white space, but it does not start with any
  have hall : ∀ d ∈ text.toList.dropWhile isSpace, isSpace d = true := by
    intro d hd
    exact hkept d (List.mem_reverse.mpr hd)
  have hnone : text.toList.dropWhile isSpace = [] := by
    rw [← dropWhile_isSpace]
    exact List.dropWhile_eq_nil_iff.mpr hall
  have hspaces := List.dropWhile_eq_nil_iff.mp hnone c hc
  rw [hspace] at hspaces
  cases hspaces

/-- No piece of a split text has the separator. -/
theorem notMem_of_mem_splitOn {α : Type} [DecidableEq α] {c : α} (chars : List α) :
    ∀ piece ∈ chars.splitOn c, c ∉ piece := by
  induction chars with
  | nil => simp [List.splitOn_nil]
  | cons d rest ih =>
      rw [List.splitOn_cons_eq_if_modifyHead]
      by_cases hc : d = c
      · simp [hc]
        exact ih
      · simp only [beq_iff_eq, hc, if_false]
        obtain ⟨first, others, hsplit⟩ := List.exists_cons_of_ne_nil (List.splitOn_ne_nil c rest)
        rw [hsplit] at ih ⊢
        simp only [List.modifyHead_cons, List.mem_cons, forall_eq_or_imp] at ih ⊢
        exact ⟨not_or.mpr ⟨Ne.symm hc, ih.1⟩, ih.2⟩

/-- Texts that were joined with a separator that none of them has are found again. -/
theorem splitOn_joined {c : Char} {texts : List String} (hne : texts ≠ [])
    (hsep : ∀ text ∈ texts, c ∉ text.toList) :
    ((String.singleton c).intercalate texts).toList.splitOn c = texts.map String.toList := by
  rw [String.toList_intercalate, String.toList_singleton]
  refine List.splitOn_intercalate c ?_ (by simpa using hne)
  intro chars hchars
  obtain ⟨text, htext, rfl⟩ := List.mem_map.mp hchars
  exact hsep text htext

/-- `str.encode("utf-8")`. -/
def utf8 (text : String) : Bytes := text.toUTF8.data.toList

theorem utf8_injective : Function.Injective utf8 := by
  intro a b h
  unfold utf8 at h
  exact String.toByteArray_inj.mp (ByteArray.ext (Array.toList_inj.mp h))

theorem utf8_ofList (cs : List Char) :
    utf8 (String.ofList cs) = cs.flatMap String.utf8EncodeChar := by
  unfold utf8
  simp [List.utf8Encode]

/-- `bytes.decode("utf-8")`. -/
def utf8Decode (bytes : Bytes) : Option String := String.fromUTF8? ⟨bytes.toArray⟩

@[simp] theorem utf8Decode_utf8 (text : String) : utf8Decode (utf8 text) = some text := by
  unfold utf8Decode utf8 String.fromUTF8?
  rw [show (⟨text.toUTF8.data.toList.toArray⟩ : ByteArray) = text.toByteArray by simp]
  rw [dif_pos text.isValidUTF8]
  rfl

end ControlPlane
