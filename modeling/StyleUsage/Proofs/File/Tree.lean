import StyleUsage.File.Tree
import StyleUsage.Proofs.Collection.Entries
import StyleUsage.Proofs.Collection.Traversal
import Mathlib.Data.List.Induction
import Mathlib.Data.List.Infix

/-!
# Places in a tree

The folders around a place are its beginnings, so a search from the place up to the root ends at the
nearest folder where it finds something or fails (`findSomeM?_around_eq_iff`). In a well formed tree
every part of a place but the last one is a folder, and the path from the root leads to whatever
stands there (`find?_absolute`).
-/

namespace StyleUsage

namespace Place

variable {ε β : Type} {place folder : Place} {name : String}

/-! ## The folders around a place -/

theorem around_concat (place : Place) (name : String) :
    around (place ++ [name]) = (place ++ [name]) :: around place := by
  have hbefore : ∀ n ∈ List.range (place.length + 1), (place ++ [name]).take n = place.take n := by
    intro n hn
    have hle : n ≤ place.length := by
      have := List.mem_range.1 hn
      omega
    exact List.take_append_of_le_length hle
  have hself : (place ++ [name]).take (place.length + 1) = place ++ [name] :=
    List.take_of_length_le (by simp)
  unfold around
  rw [List.length_append, List.length_singleton, List.range_succ, List.map_append,
    List.reverse_append, List.map_congr_left hbefore, List.map_singleton, hself]
  rfl

theorem mem_around_iff : folder ∈ place.around ↔ folder <+: place := by
  induction place using List.reverseRecOn with
  | nil => simp [around]
  | append_singleton place name ih =>
    rw [around_concat, List.mem_cons, ih, List.prefix_concat_iff]

/-- The nearest folder around a place that has a property: whatever other one has it lies around
this one. -/
structure Nearest (Q : Place → Prop) (place folder : Place) : Prop where
  around : folder <+: place
  holds : Q folder
  nearest : ∀ other, other <+: place → Q other → other <+: folder

theorem nearest_iff_of_holds {Q : Place → Prop} (h : Q place) :
    Nearest Q place folder ↔ folder = place := by
  constructor
  · intro hnear
    exact hnear.around.eq_of_length_le (hnear.nearest place List.prefix_rfl h).length_le
  · rintro rfl
    exact ⟨List.prefix_rfl, h, fun _ hother _ => hother⟩

theorem nearest_concat_iff {Q : Place → Prop} (h : ¬Q (place ++ [name])) :
    Nearest Q (place ++ [name]) folder ↔ Nearest Q place folder := by
  have hother : ∀ other, Q other → (other <+: place ++ [name] ↔ other <+: place) := by
    intro other hQ
    rw [List.prefix_concat_iff, or_iff_right]
    rintro rfl
    exact h hQ
  constructor
  · intro hnear
    exact ⟨(hother folder hnear.holds).1 hnear.around, hnear.holds, fun other hprefix hQ =>
      hnear.nearest other ((hother other hQ).2 hprefix) hQ⟩
  · intro hnear
    exact ⟨(hother folder hnear.holds).2 hnear.around, hnear.holds, fun other hprefix hQ =>
      hnear.nearest other ((hother other hQ).1 hprefix) hQ⟩

/-- A search from a place up to the root ends as the nearest folder says that ends it. -/
theorem findSomeM?_around_eq_iff {f : Place → Except ε (Option β)} {r : Except ε (Option β)}
    (hr : r ≠ .ok none) : place.around.findSomeM? f = r ↔
      ∃ folder, Nearest (fun p => f p ≠ .ok none) place folder ∧ f folder = r := by
  induction place using List.reverseRecOn with
  | nil =>
    show [[]].findSomeM? f = r ↔ _
    by_cases hf : f [] = .ok none
    · have hend : [[]].findSomeM? f = .ok none := findSomeM?_cons_of_none hf
      rw [hend]
      refine iff_of_false hr.symm ?_
      rintro ⟨folder, hnear, -⟩
      exact hnear.holds (List.prefix_nil.1 hnear.around ▸ hf)
    · have hhere (folder : Place) : Nearest (fun p => f p ≠ .ok none) [] folder ↔ folder = [] :=
        nearest_iff_of_holds hf
      rw [findSomeM?_cons_of_ne hf]
      simp only [hhere, exists_eq_left]
  | append_singleton place name ih =>
    rw [around_concat]
    by_cases hf : f (place ++ [name]) = .ok none
    · have habove (folder : Place) : Nearest (fun p => f p ≠ .ok none) (place ++ [name]) folder ↔
          Nearest (fun p => f p ≠ .ok none) place folder := nearest_concat_iff (by simp [hf])
      rw [findSomeM?_cons_of_none hf, ih]
      simp only [habove]
    · have hhere (folder : Place) : Nearest (fun p => f p ≠ .ok none) (place ++ [name]) folder ↔
          folder = place ++ [name] := nearest_iff_of_holds hf
      rw [findSomeM?_cons_of_ne hf]
      simp only [hhere, exists_eq_left]

theorem findSomeM?_around_eq_none_iff {f : Place → Except ε (Option β)} :
    place.around.findSomeM? f = .ok none ↔ ∀ folder, folder <+: place → f folder = .ok none := by
  simp only [findSomeM?_eq_none_iff, mem_around_iff]

end Place

namespace FileTree

variable {t : FileTree} {place place' : Place} {name : String} {found : Found}

/-! ## What stands at a place -/

theorem isFile_iff : t.isFile place = true ↔ ∃ content, t.atPlace place = some (.file content) := by
  unfold isFile atPlace Entries.has
  cases Entries.get? t.files place with
  | some content => simp
  | none =>
    simp only [Option.isSome_none, Bool.false_eq_true, false_iff]
    rintro ⟨content, h⟩
    split at h <;> cases h

def removeFile (t : FileTree) (place : Place) : FileTree :=
  { t with files := t.files.filter fun p => decide (p.1 ≠ place) }

theorem atPlace_removeFile_of_ne (h : place' ≠ place) :
    (t.removeFile place).atPlace place' = t.atPlace place' := by
  unfold atPlace removeFile
  rw [Entries.get?_filter_ne, if_neg h]

theorem atPlace_removeFile_ne_file (content : ByteArray) :
    (t.removeFile place).atPlace place ≠ some (.file content) := by
  unfold atPlace removeFile
  rw [Entries.get?_filter_ne, if_pos rfl]
  dsimp only
  split <;> simp

/-! ## Well formed trees -/

/-- Folders stand around everything in the tree, and the working folder is named without the two
dots that lead out of a folder. -/
structure WellFormed (t : FileTree) : Prop where
  home : ".." ∉ t.home
  around : ∀ {place name found}, t.atPlace (place ++ [name]) = some found →
    t.atPlace place = some .folder

/-- A tree is well formed if a folder stands around each of its files and folders. -/
theorem wellFormed_of_dropLast (hhome : ".." ∉ t.home)
    (h : ∀ place ∈ Entries.keys t.files ++ t.folders, place ≠ [] →
      t.atPlace place.dropLast = some .folder) : t.WellFormed where
  home := hhome
  around := by
    intro place name found hfound
    have hmem : place ++ [name] ∈ Entries.keys t.files ++ t.folders := by
      by_contra hnot
      rw [List.mem_append, not_or] at hnot
      unfold atPlace at hfound
      rw [Entries.get?_eq_none hnot.1] at hfound
      simp [hnot.2] at hfound
    have hfolder := h _ hmem (by simp)
    rwa [List.dropLast_concat] at hfolder

theorem follow_eq_append : ∀ {parts : List String} (place : Place), ".." ∉ parts →
    follow place parts = place ++ parts
  | [], place, _ => (List.append_nil place).symm
  | part :: parts, place, h => by
    rw [List.mem_cons, not_or] at h
    rw [follow, if_neg (Ne.symm h.1), follow_eq_append _ h.2, List.append_assoc,
      List.singleton_append]

theorem not_mem_follow : ∀ {parts : List String} {place : Place}, ".." ∉ place →
    ".." ∉ follow place parts
  | [], _, h => h
  | part :: parts, place, h => by
    rw [follow]
    apply not_mem_follow
    by_cases hpart : part = ".."
    · rw [if_pos hpart]
      exact fun hmem => h (List.mem_of_mem_dropLast hmem)
    · rw [if_neg hpart]
      simpa [h] using Ne.symm hpart

/-- No path leads to a place with two dots in its name. -/
theorem WellFormed.not_mem_place (ht : t.WellFormed) (p : Path) : ".." ∉ t.place p := by
  refine not_mem_follow ?_
  unfold startOf
  split
  · exact ht.home
  · exact List.not_mem_nil

/-- The way down to a place where something stands leads through folders. -/
theorem WellFormed.folder_of_append (ht : t.WellFormed) : ∀ {below : List String} {found : Found},
    t.atPlace (place ++ below) = some found → below ≠ [] → t.atPlace place = some .folder := by
  intro below
  induction below using List.reverseRecOn with
  | nil => exact fun _ hne => absurd rfl hne
  | append_singleton below name ih =>
    intro found h _
    rw [← List.append_assoc] at h
    have hfolder := ht.around h
    by_cases hbelow : below = []
    · rwa [hbelow, List.append_nil] at hfolder
    · exact ih hfolder hbelow

theorem WellFormed.passable (ht : t.WellFormed) : ∀ {parts : List String} {place : Place}
    {found : Found}, t.atPlace (place ++ parts) = some found → ".." ∉ parts →
      t.passable place parts = true
  | [], _, _, _, _ => rfl
  | part :: parts, place, found, h, hdots => by
    have hfolder : t.atPlace place = some .folder := ht.folder_of_append h (List.cons_ne_nil _ _)
    have hpart : follow place [part] = place ++ [part] :=
      follow_eq_append place fun hmem => hdots (List.mem_cons.2 (.inl (List.mem_singleton.1 hmem)))
    have hrest : t.passable (place ++ [part]) parts = true :=
      ht.passable (by simpa using h) fun hmem => hdots (List.mem_cons_of_mem _ hmem)
    rw [FileTree.passable, hfolder, hpart, hrest]
    rfl

/-- The path from the root leads to what stands at a place. -/
theorem WellFormed.find?_absolute (ht : t.WellFormed) (h : t.atPlace place = some found)
    (hdots : ".." ∉ place) : t.find? (absolute place) = some found := by
  have hplace : t.place (absolute place) = place := follow_eq_append [] hdots
  have hpass : t.passable (t.startOf (absolute place)) (absolute place).parts = true :=
    ht.passable ((congrArg t.atPlace (List.nil_append place)).trans h) hdots
  unfold find?
  rw [if_pos hpass, hplace, h]

/-! ## Reading -/

theorem read_eq_ok_iff {p : Path} {text : String} : t.read p = .ok text ↔
    ∃ content, t.find? p = some (.file content) ∧ Text.ofBytes content = .ok text := by
  unfold read
  rcases t.find? p with _ | content | _
  · simp
  · simp [mapError_eq_ok_iff]
  · simp

end FileTree

end StyleUsage
