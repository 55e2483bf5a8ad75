import StyleUsage.Proofs.File.Tree
import StyleUsage.Proofs.Settings.Loading

/-!
# The nearest settings

A folder has settings if a file of their own stands in it, or a shared file whose text is TOML with
a value for them among the tools. The file that is found belongs to the nearest such folder around
the start, unless a folder on the way there has a shared file whose bytes are no text: this ends the
search (`find?_eq_some_iff`, `find?_eq_error_iff`). A shared file whose text is no TOML is as good
as absent (`find?_removeFile`). What the search saw in a shared file is what loading reads
(`load_of_offers`), so the one value that loading uses without a check is a table there.
-/

namespace StyleUsage.Settings

open FileTree

variable {t : FileTree} {start : Path} {folder place : Place} {content : ByteArray} {text : String}
  {v : Toml} {fault : Text.CodingFault}

/-! ## Settings in a folder -/

/-- A text is TOML, and in its table of tools the value stands where the settings should be. -/
def Offers (text : String) (v : Toml) : Prop :=
  ∃ document tools, Toml.read text = .ok document ∧
    document.field? "tool" = some (.table tools) ∧ Entries.get? tools "blockref" = some v

theorem hasTable_iff : hasTable text = true ↔ ∃ v, Offers text v := by
  constructor
  · intro h
    unfold hasTable at h
    split at h
    · cases h
    · next document hread =>
      split at h
      · next tools htool =>
        obtain ⟨v, hv⟩ := Option.isSome_iff_exists.1 h
        cases tools with
        | table fields => exact ⟨v, document, fields, hread, htool, hv⟩
        | _ => cases hv
      · cases h
  · rintro ⟨v, document, tools, hread, htool, hv⟩
    unfold hasTable
    rw [hread]
    dsimp only
    rw [htool]
    exact Option.isSome_iff_exists.2 ⟨v, hv⟩

theorem not_hasTable_of_error {e : TomlError} (h : Toml.read text = .error e) :
    hasTable text = false := by
  unfold hasTable
  rw [h]

/-- A folder has a file of settings of their own, or a shared file that offers some. -/
def HasSettings (t : FileTree) (folder : Place) : Prop :=
  t.isFile (folder ++ [ownName]) = true ∨
    ∃ content text v, t.atPlace (folder ++ [sharedName]) = some (.file content) ∧
      Text.ofBytes content = .ok text ∧ Offers text v

/-- A folder without a file of settings of their own has a shared file whose bytes are no text, for
a fault in them. -/
def Obstructs (t : FileTree) (folder : Place) (fault : Text.CodingFault) : Prop :=
  t.isFile (folder ++ [ownName]) = false ∧
    ∃ content, t.atPlace (folder ++ [sharedName]) = some (.file content) ∧
      Text.ofBytes content = .error fault

/-- The file of a folder that counts: that of the settings alone, if there is one. -/
def fileOf (t : FileTree) (folder : Place) : Place :=
  folder ++ [if t.isFile (folder ++ [ownName]) then ownName else sharedName]

theorem inFolder?_of_isFile (h : t.isFile (folder ++ [ownName]) = true) :
    inFolder? t folder = .ok (some (folder ++ [ownName])) := by
  obtain ⟨content, hcontent⟩ := isFile_iff.1 h
  unfold inFolder?
  dsimp only
  rw [hcontent]

/-- Without a file of its own a folder has what its shared file offers. -/
theorem inFolder?_of_not_isFile (h : t.isFile (folder ++ [ownName]) = false) :
    inFolder? t folder = match t.atPlace (folder ++ [sharedName]) with
      | some (.file content) =>
        match Text.ofBytes content with
        | .ok text => .ok (if hasTable text then some (folder ++ [sharedName]) else none)
        | .error fault => .error (.notText fault)
      | _ => .ok none := by
  have hown : ∀ content, t.atPlace (folder ++ [ownName]) ≠ some (.file content) := by
    intro content hcontent
    rw [isFile_iff.2 ⟨content, hcontent⟩] at h
    cases h
  unfold inFolder?
  dsimp only
  rcases hfound : t.atPlace (folder ++ [ownName]) with _ | content | _
  · rcases t.atPlace (folder ++ [sharedName]) with _ | _ | _ <;> rfl
  · exact absurd hfound (hown content)
  · rcases t.atPlace (folder ++ [sharedName]) with _ | _ | _ <;> rfl

theorem inFolder?_eq_some_iff :
    inFolder? t folder = .ok (some place) ↔ HasSettings t folder ∧ place = fileOf t folder := by
  unfold HasSettings fileOf
  cases hown : t.isFile (folder ++ [ownName]) with
  | true => simp [inFolder?_of_isFile hown, @eq_comm _ place]
  | false =>
    rw [inFolder?_of_not_isFile hown]
    rcases t.atPlace (folder ++ [sharedName]) with _ | content | _
    · simp
    · cases htext : Text.ofBytes content with
      | error fault => simp [htext]
      | ok text => simp [htext, hasTable_iff, @eq_comm _ place]
    · simp

theorem inFolder?_eq_error_iff {cause : SettingsError} : inFolder? t folder = .error cause ↔
    ∃ fault, Obstructs t folder fault ∧ cause = .notText fault := by
  unfold Obstructs
  cases hown : t.isFile (folder ++ [ownName]) with
  | true => simp [inFolder?_of_isFile hown]
  | false =>
    rw [inFolder?_of_not_isFile hown]
    rcases t.atPlace (folder ++ [sharedName]) with _ | content | _
    · simp
    · cases htext : Text.ofBytes content with
      | error fault => simp [htext, @eq_comm _ cause]
      | ok text => simp [htext]
    · simp

/-- A search does not go on beyond a folder that has settings or obstructs it, and only there. -/
theorem inFolder?_ne_none_iff :
    inFolder? t folder ≠ .ok none ↔ HasSettings t folder ∨ ∃ fault, Obstructs t folder fault := by
  constructor
  · intro h
    match hfolder : inFolder? t folder with
    | .ok none => exact absurd hfolder h
    | .ok (some place) => exact .inl (inFolder?_eq_some_iff.1 hfolder).1
    | .error cause =>
      obtain ⟨fault, h, -⟩ := inFolder?_eq_error_iff.1 hfolder
      exact .inr ⟨fault, h⟩
  · rintro (h | ⟨fault, h⟩) hnone
    · cases hnone.symm.trans (inFolder?_eq_some_iff.2 ⟨h, rfl⟩)
    · cases hnone.symm.trans (inFolder?_eq_error_iff.2 ⟨fault, h, rfl⟩)

/-! ## The search -/

/-- The nearest folder around the start that has settings or obstructs the search. -/
def EndsAt (t : FileTree) (start : Path) (folder : Place) : Prop :=
  (t.place start).Nearest (fun p => HasSettings t p ∨ ∃ fault, Obstructs t p fault) folder

theorem find?_eq_iff {r : Except SettingsError (Option Place)} (hr : r ≠ .ok none) :
    find? t start = r ↔ ∃ folder, EndsAt t start folder ∧ inFolder? t folder = r := by
  unfold find? EndsAt
  rw [Place.findSomeM?_around_eq_iff hr]
  simp only [inFolder?_ne_none_iff]

/-- The file that is found is that of the nearest folder with settings. -/
theorem find?_eq_some_iff : find? t start = .ok (some place) ↔
    ∃ folder, EndsAt t start folder ∧ HasSettings t folder ∧ place = fileOf t folder := by
  rw [find?_eq_iff (by simp)]
  simp only [inFolder?_eq_some_iff]

/-- TOML has no lines that end in a carriage return alone, but a file with such lines is found, as
it is read with one kind of line end. -/
example :
    let lines := "[tool.blockref]\rindent = 4\r"
    let t : FileTree := ⟨[],
      [(["a", "pyproject.toml"], lines.toUTF8), (["blockref.toml"], "indent = 1\n".toUTF8)],
      [[], ["a"]]⟩
    (Toml.read lines).toBool = false ∧
      find? t ⟨.here, ["a"]⟩ = .ok (some ["a", "pyproject.toml"]) := by
  decide +kernel

/-- The search fails at bytes that are no text. -/
theorem find?_eq_error_iff {cause : SettingsError} : find? t start = .error cause ↔
    ∃ folder fault, EndsAt t start folder ∧ Obstructs t folder fault ∧ cause = .notText fault := by
  rw [find?_eq_iff (by simp)]
  simp only [inFolder?_eq_error_iff, exists_and_left]

theorem find?_eq_none_iff : find? t start = .ok none ↔
    ∀ folder, folder <+: t.place start →
      ¬HasSettings t folder ∧ ∀ fault, ¬Obstructs t folder fault := by
  unfold find?
  rw [Place.findSomeM?_around_eq_none_iff]
  simp only [← not_exists, ← not_or, ← inFolder?_ne_none_iff, ne_eq, not_not]

/-- A shared file that offers nothing is passed over as if it were not there. -/
theorem inFolder?_removeFile (h : t.atPlace (folder ++ [sharedName]) = some (.file content))
    (htext : Text.ofBytes content = .ok text) (hnone : hasTable text = false) (other : Place) :
    inFolder? (t.removeFile (folder ++ [sharedName])) other = inFolder? t other := by
  have hown : other ++ [ownName] ≠ folder ++ [sharedName] := by
    intro heq
    have hname := (List.append_inj' heq rfl).2
    exact absurd hname (by decide)
  have hisFile : (t.removeFile (folder ++ [sharedName])).isFile (other ++ [ownName]) =
      t.isFile (other ++ [ownName]) := by
    rw [Bool.eq_iff_iff, isFile_iff, isFile_iff, atPlace_removeFile_of_ne hown]
  cases hfile : t.isFile (other ++ [ownName]) with
  | true => rw [inFolder?_of_isFile hfile, inFolder?_of_isFile (hisFile.trans hfile)]
  | false =>
    rw [inFolder?_of_not_isFile hfile, inFolder?_of_not_isFile (hisFile.trans hfile)]
    by_cases hother : other = folder
    · subst hother
      rw [h]
      dsimp only
      rw [htext]
      dsimp only
      rw [hnone]
      split
      · next hfound => exact absurd hfound (atPlace_removeFile_ne_file _)
      · rfl
    · have hshared : other ++ [sharedName] ≠ folder ++ [sharedName] :=
        fun heq => hother (List.append_cancel_right heq)
      rw [atPlace_removeFile_of_ne hshared]

/-- A shared file whose text is no TOML neither ends the search nor hides settings further up. -/
theorem find?_removeFile (h : t.atPlace (folder ++ [sharedName]) = some (.file content))
    (htext : Text.ofBytes content = .ok text) {e : TomlError} (he : Toml.read text = .error e)
    (start : Path) : find? (t.removeFile (folder ++ [sharedName])) start = find? t start := by
  have hfolder : inFolder? (t.removeFile (folder ++ [sharedName])) = inFolder? t := by
    funext other
    exact inFolder?_removeFile h htext (not_hasTable_of_error he) other
  unfold find?
  rw [hfolder]
  rfl

/-! ## A search whose uses may fail -/

/-- Whether a text offers settings. A text that is no TOML is caught; a value is used as a table
only after a check. -/
def tryHasTable (text : String) : Except LoadFault Bool :=
  match Toml.read text with
  | .error _ => .ok false
  | .ok document => do
    let fields ← useAs Toml.fields? document
    match Entries.get? fields "tool" with
    | none => .ok false
    | some v =>
      if v.fields?.isSome then do
        let tools ← useAs Toml.fields? v
        .ok (Entries.has tools "blockref")
      else .ok false

/-- Search folders one after another. The bytes of a shared file are used as a text as they are. -/
def trySearch (t : FileTree) : List Place → Except LoadFault (Option Place)
  | [] => .ok none
  | folder :: rest =>
    if t.isFile (folder ++ [ownName]) then .ok (some (folder ++ [ownName]))
    else
      match t.atPlace (folder ++ [sharedName]) with
      | some (.file content) =>
        match Text.ofBytes content with
        | .ok text => do
          if ← tryHasTable text then .ok (some (folder ++ [sharedName])) else trySearch t rest
        | .error fault => .error (.notText fault)
      | _ => trySearch t rest

/-- The file of the settings that apply where a path leads to, by a search whose uses may fail. -/
def tryFind (t : FileTree) (start : Path) : Except LoadFault (Option Place) :=
  trySearch t (t.place start).around

theorem tryHasTable_eq_ok (text : String) : tryHasTable text = .ok (hasTable text) := by
  unfold tryHasTable hasTable
  cases hread : Toml.read text with
  | error e => rfl
  | ok document =>
    obtain ⟨fields, rfl⟩ := exists_table_of_read hread
    have hfield : (Toml.table fields).field? "tool" = Entries.get? fields "tool" := rfl
    have huse : (useAs Toml.fields? (.table fields) : Except LoadFault _) = .ok fields := rfl
    dsimp only
    rw [hfield, huse]
    simp only [bind, Except.bind]
    cases Entries.get? fields "tool" with
    | none => rfl
    | some v => cases v <;> rfl

/-- No use of a value fails in a search; the use of bytes as a text may. -/
theorem trySearch_eq (t : FileTree) (folders : List Place) :
    trySearch t folders = (folders.findSomeM? (inFolder? t)).mapError LoadFault.ofCause := by
  induction folders with
  | nil => rfl
  | cons folder rest ih =>
    rw [trySearch]
    cases hown : t.isFile (folder ++ [ownName]) with
    | true =>
      have hfolder := inFolder?_of_isFile hown
      rw [findSomeM?_cons_of_ne (by simp [hfolder]), hfolder]
      rfl
    | false =>
      have hfolder := inFolder?_of_not_isFile hown
      rw [if_neg Bool.false_ne_true]
      rcases hfound : t.atPlace (folder ++ [sharedName]) with _ | content | _
      · rw [findSomeM?_cons_of_none (by rw [hfolder, hfound])]
        exact ih
      · dsimp only
        cases htext : Text.ofBytes content with
        | error fault =>
          simp only [hfound, htext] at hfolder
          rw [findSomeM?_cons_of_ne (by simp [hfolder]), hfolder]
          rfl
        | ok text =>
          simp only [hfound, htext] at hfolder
          dsimp only
          rw [tryHasTable_eq_ok]
          cases htable : hasTable text with
          | true =>
            rw [htable] at hfolder
            rw [findSomeM?_cons_of_ne (by simp [hfolder]), hfolder]
            rfl
          | false =>
            rw [htable] at hfolder
            rw [findSomeM?_cons_of_none hfolder]
            exact ih
      · rw [findSomeM?_cons_of_none (by rw [hfolder, hfound])]
        exact ih

/-! ## Loading what was found -/

def ofValue (path : Path) : Toml → Except SettingsError Settings
  | .table fields => ofTable path fields
  | _ => .error (.notATable path)

theorem onlyChecks_ofValue (path : Path) (v : Toml) : OnlyChecks (ofValue path v) := by
  cases v with
  | table fields => exact onlyChecks_ofTable path fields
  | _ => exact .error rfl

/-- Loading reads the value that a shared file offers. -/
theorem load_of_offers {path : Path} (hfile : t.read path = .ok text)
    (hname : path.name = sharedName) (h : Offers text v) : load t path = ofValue path v := by
  obtain ⟨document, tools, hread, htool, hvalue⟩ := h
  have htable : settingsTable path document = .ok v := by
    unfold settingsTable
    rw [if_pos hname, htool]
    dsimp only
    rw [hvalue]
    rfl
  unfold load
  rw [hfile]
  show ofText path text = _
  unfold ofText
  rw [hread]
  show (settingsTable path document >>= _) = _
  rw [htable]
  cases v <;> rfl

/-- Where every use may fail, only a check fails on the value that a shared file offers. -/
theorem tryLoad_of_offers {path : Path} (hfile : t.read path = .ok text)
    (hname : path.name = sharedName) (h : Offers text v) :
    tryLoad t path = (ofValue path v).mapError .refused := by
  rw [(sameLoad_load t path).eq_mapError, load_of_offers hfile hname h]
  cases hvalue : ofValue path v with
  | ok s => rfl
  | error cause => exact congrArg Except.error (onlyChecks_ofValue path v cause hvalue)

/-- A shared file that is found is there and offers a value. -/
theorem offers_of_find? (h : find? t start = .ok (some (folder ++ [sharedName]))) :
    folder <+: t.place start ∧ ∃ content text v,
      t.atPlace (folder ++ [sharedName]) = some (.file content) ∧
      Text.ofBytes content = .ok text ∧ Offers text v := by
  obtain ⟨nearest, hend, hsettings, hplace⟩ := find?_eq_some_iff.1 h
  obtain ⟨hfolder, hname⟩ := List.append_inj' hplace rfl
  subst hfolder
  have hown : t.isFile (folder ++ [ownName]) ≠ true := by
    intro hown
    rw [if_pos hown] at hname
    exact absurd hname (by decide)
  exact ⟨hend.around, hsettings.resolve_left hown⟩

/-- **The settings that apply.** The search ends at the nearest folder around the start that has
settings or obstructs it. It finds the file of a folder with settings, of their own before shared
ones, and nothing exactly if no folder around ends it; a shared file whose text is no TOML counts as
absent. A shared file whose bytes are no text is the one thing that makes it fail. If the file that
is found is a shared one, loading it reads the very value that the search saw there, and stops, if
at all, at a check. -/
theorem discovery_outcome (ht : t.WellFormed) (start : Path) :
    tryFind t start = (find? t start).mapError LoadFault.ofCause ∧
    (∀ place, find? t start = .ok (some place) ↔
      ∃ folder, EndsAt t start folder ∧ HasSettings t folder ∧ place = fileOf t folder) ∧
    (find? t start = .ok none ↔
      ∀ folder, folder <+: t.place start →
        ¬HasSettings t folder ∧ ∀ fault, ¬Obstructs t folder fault) ∧
    (∀ cause, find? t start = .error cause ↔ ∃ folder fault, EndsAt t start folder ∧
      Obstructs t folder fault ∧ cause = .notText fault) ∧
    (∀ folder content text e, t.atPlace (folder ++ [sharedName]) = some (.file content) →
      Text.ofBytes content = .ok text → Toml.read text = .error e →
      find? (t.removeFile (folder ++ [sharedName])) start = find? t start) ∧
    (∀ folder, find? t start = .ok (some (folder ++ [sharedName])) →
      let path := absolute (folder ++ [sharedName])
      ∃ text v, t.read path = .ok text ∧ Offers text v ∧ load t path = ofValue path v ∧
        tryLoad t path = (ofValue path v).mapError .refused) := by
  refine ⟨trySearch_eq t _, fun _ => find?_eq_some_iff, find?_eq_none_iff,
    fun _ => find?_eq_error_iff, fun _ _ _ _ h htext he => find?_removeFile h htext he start, ?_⟩
  intro folder hfind path
  obtain ⟨hfolder, content, text, v, hcontent, htext, hoffers⟩ := offers_of_find? hfind
  have hdots : ".." ∉ folder ++ [sharedName] := by
    intro hmem
    rcases List.mem_append.1 hmem with hmem | hmem
    · exact ht.not_mem_place start (hfolder.subset hmem)
    · exact absurd hmem (by decide)
  have hfile : t.read path = .ok text :=
    read_eq_ok_iff.2 ⟨content, ht.find?_absolute hcontent hdots, htext⟩
  have hname : path.name = sharedName := by
    show ((folder ++ [sharedName]).getLast?).getD "" = sharedName
    rw [List.getLast?_concat]
    rfl
  exact ⟨text, v, hfile, hoffers, load_of_offers hfile hname hoffers,
    tryLoad_of_offers hfile hname hoffers⟩

/-- Between a folder with a broken shared file and one with a file of settings alone, the shared
file in the middle is found, and loading reads its table. -/
theorem discovery_outcome_nested :
    let t : FileTree := ⟨["w"],
      [(["w", "blockref.toml"], "indent = 1\n".toUTF8),
        (["w", "a", "pyproject.toml"], "[tool.blockref]\nindent = 4\n".toUTF8),
        (["w", "a", "b", "pyproject.toml"], "bad = = =".toUTF8)],
      [[], ["w"], ["w", "a"], ["w", "a", "b"]]⟩
    let start : Path := ⟨.here, ["a", "b"]⟩
    let path : Path := ⟨.root, ["w", "a", "pyproject.toml"]⟩
    t.WellFormed ∧ find? t start = .ok (some ["w", "a", "pyproject.toml"]) ∧
      EndsAt t start ["w", "a"] ∧ HasSettings t ["w", "a"] ∧
      find? (t.removeFile ["w", "a", "b", "pyproject.toml"]) start = find? t start ∧
      (∃ v, Offers "[tool.blockref]\nindent = 4\n" v ∧ load t path = ofValue path v) ∧
      tryLoad t path = .ok ⟨[], .json, 4, some path⟩ := by
  intro t start path
  have ht : t.WellFormed := wellFormed_of_dropLast (by decide) (by decide)
  have hfind : find? t start = .ok (some (["w", "a"] ++ [sharedName])) := by decide +kernel
  obtain ⟨e, he⟩ : ∃ e, Toml.read "bad = = =" = .error e := by
    have hbroken : (Toml.read "bad = = =").toBool = false := by decide +kernel
    cases hread : Toml.read "bad = = =" with
    | error e => exact ⟨e, rfl⟩
    | ok document => rw [hread] at hbroken; cases hbroken
  obtain ⟨-, hnearest, -, -, hremove, hload⟩ := discovery_outcome ht start
  obtain ⟨folder, hend, hsettings, hplace⟩ := (hnearest _).1 hfind
  obtain ⟨text, v, htext, hoffers, hvalue, -⟩ := hload ["w", "a"] hfind
  obtain rfl : ["w", "a"] = folder := (List.append_inj' hplace rfl).1
  have hsame : t.read path = .ok "[tool.blockref]\nindent = 4\n" := by decide +kernel
  obtain rfl : text = "[tool.blockref]\nindent = 4\n" := Except.ok.inj (htext.symm.trans hsame)
  have hbroken : Text.ofBytes "bad = = =".toUTF8 = .ok "bad = = =" := by decide +kernel
  exact ⟨ht, hfind, hend, hsettings, hremove ["w", "a", "b"] _ _ e rfl hbroken he,
    ⟨v, hoffers, hvalue⟩, by decide +kernel⟩

/-- A shared file whose bytes are no text, below a folder with settings, hides them. -/
theorem not_nearest_found : ¬∀ (t : FileTree) (start : Path) (folder : Place), t.WellFormed →
    (t.place start).Nearest (HasSettings t) folder →
    tryFind t start = .ok (some (fileOf t folder)) := by
  intro h
  -- an accented letter at the end, in Latin-1
  let latin : ByteArray := "output = \"caf".toUTF8 ++ ⟨#[0xE9, 0x22, 0x0A]⟩
  let t : FileTree := ⟨[],
    [(["a", "pyproject.toml"], latin),
      (["blockref.toml"], "indent = 1\n".toUTF8)],
    [[], ["a"]]⟩
  let start : Path := ⟨.here, ["a"]⟩
  have ht : t.WellFormed := wellFormed_of_dropLast (by decide) (by decide)
  have hlatin : Text.ofBytes latin = .error ⟨13, [0xE9], .continuation⟩ := by decide +kernel
  have hfault : tryFind t start = .error (.notText ⟨13, [0xE9], .continuation⟩) := by
    decide +kernel
  have hbelow : ¬HasSettings t ["a"] := by
    rintro (hown | ⟨content, text, v, hcontent, htext, -⟩)
    · exact absurd hown (by decide)
    · obtain rfl : latin = content := Found.file.inj (Option.some.inj hcontent)
      cases hlatin.symm.trans htext
  have hnear : (t.place start).Nearest (HasSettings t) [] :=
    (Place.nearest_concat_iff hbelow).2
      ((Place.nearest_iff_of_holds (.inl (by decide))).2 rfl)
  cases hfault.symm.trans (h t start [] ht hnear)

end StyleUsage.Settings
