/-
Paths of a POSIX file system, as `pathlib` reads and joins them.

A path is absolute and is given by its components.  Text becomes components by splitting it at
slashes, where empty pieces and dots count for nothing; two dots are a component like any
other, and going up is left to the resolution of a path, which needs the file system.
-/
import ControlPlane.Lib.Text

namespace ControlPlane

/-- An absolute path: its components below `/`. -/
abbrev Path := List String

namespace Path

/-- The components of a text. -/
def components (text : String) : List String :=
  ((text.toList.splitOn '/').map String.ofList).filter fun piece => piece ≠ "" && piece ≠ "."

/-- Whether a text is an absolute path. -/
def isAbsolute (text : String) : Bool := text.toList.head? = some '/'

/-- `path / text`: an absolute text takes the place of the path. -/
def join (path : Path) (text : String) : Path :=
  if isAbsolute text then components text else path ++ components text

/-- `str` of a relative path. -/
def render (names : List String) : String := "/".intercalate names

/-- `Path(text).suffix`: what follows the last dot of the name, with the dot, unless the dot is
at an end of the name. -/
def suffix (text : String) : String :=
  let name := ((components text).getLast?.getD "").toList
  let extension := (name.reverse.takeWhile (· ≠ '.')).reverse
  if extension.length + 1 < name.length ∧ extension ≠ [] then String.ofList ('.' :: extension)
  else ""

example : components "/a//./b/../c.txt" = ["a", "b", "..", "c.txt"] := by decide

example : suffix "x/wire.proof.pdf" = ".pdf" ∧ suffix ".bashrc" = "" ∧ suffix "a." = "" := by
  decide

/-- A name that stands for one component below a directory. -/
structure IsName (name : String) : Prop where
  notEmpty : name ≠ ""
  notDot : name ≠ "."
  notUp : name ≠ ".."
  noSlash : '/' ∉ name.toList

/-- **Names that were joined are found again.** -/
theorem components_render {names : List String} (hne : names ≠ [])
    (hnames : ∀ name ∈ names, IsName name) : components (render names) = names := by
  unfold components render
  have hsplit : ("/".intercalate names).toList.splitOn '/' = names.map String.toList :=
    splitOn_joined hne fun name hname => (hnames name hname).noSlash
  rw [hsplit, List.map_map]
  have hsame : names.map (String.ofList ∘ String.toList) = names := by simp
  rw [hsame, List.filter_eq_self]
  intro name hname
  simp [(hnames name hname).notEmpty, (hnames name hname).notDot]

theorem isAbsolute_render {names : List String} (hne : names ≠ [])
    (hnames : ∀ name ∈ names, IsName name) : isAbsolute (render names) = false := by
  by_contra h
  have habsolute : (render names).toList.head? = some '/' := by simpa [isAbsolute] using h
  obtain ⟨rest, hrest⟩ : ∃ rest, (render names).toList = '/' :: rest := by
    cases hchars : (render names).toList with
    | nil => simp [hchars] at habsolute
    | cons c rest => exact ⟨rest, by simpa [hchars] using habsolute⟩
  -- a slash at the start makes the first piece empty
  have hsplit : (render names).toList.splitOn '/' = names.map String.toList :=
    splitOn_joined hne fun name hname => (hnames name hname).noSlash
  rw [hrest, List.splitOn_cons_eq_if_modifyHead] at hsplit
  have hempty : [] ∈ names.map String.toList := by
    rw [← hsplit]
    simp
  obtain ⟨name, hname, hnil⟩ := List.mem_map.mp hempty
  exact (hnames name hname).notEmpty (String.toList_eq_nil_iff.mp hnil)

/-- Joining a path with names puts them below it. -/
theorem join_render (path : Path) {names : List String} (hne : names ≠ [])
    (hnames : ∀ name ∈ names, IsName name) : join path (render names) = path ++ names := by
  simp [join, isAbsolute_render hne hnames, components_render hne hnames]

theorem noSlash_of_mem_components {text piece : String} (h : piece ∈ components text) :
    '/' ∉ piece.toList := by
  obtain ⟨hpiece, -⟩ := List.mem_filter.mp h
  obtain ⟨chars, hchars, rfl⟩ := List.mem_map.mp hpiece
  simpa using notMem_of_mem_splitOn text.toList chars hchars

theorem noSlash_suffix (text : String) : '/' ∉ (suffix text).toList := by
  unfold suffix
  generalize hname : (components text).getLast?.getD "" = name
  have hslash : '/' ∉ name.toList := by
    cases hlast : (components text).getLast? with
    | none =>
        rw [hlast] at hname
        simp [← hname]
    | some last =>
        rw [hlast] at hname
        obtain rfl : last = name := hname
        exact noSlash_of_mem_components (List.mem_of_getLast? hlast)
  dsimp only
  split
  · rw [String.toList_ofList, List.mem_cons, List.mem_reverse]
    rintro (h | h)
    · cases h
    · exact hslash (List.mem_reverse.mp ((List.takeWhile_prefix _).subset h))
  · simp

end Path

end ControlPlane
