import StyleUsage.Collection.Entries
import StyleUsage.Template.Registry
import Mathlib.Data.List.Induction

/-!
# Rebuilt templates

What stands behind a type name in a registry is told by the calls that led to it: the constructor
that was registered last under the name since the registry was cleared last (`get?_run`). An empty
payload is left out of a descriptor and read back as empty, any other one comes back as it is
(`TemplateInfo.payload_describe`). So a template whose constructor stands behind its type name is
rebuilt from its descriptor (`rebuildEntries_describe`).
-/

namespace StyleUsage

/-! ## Descriptors -/

namespace Datum

theorem getEntry?_fields (fields : List (String × Datum)) (name : String) :
    getEntry? (fields.map fun p => (.str p.1, p.2)) (.str name) = fields.lookup name := by
  induction fields with
  | nil => rfl
  | cons p fields ih =>
    have hkey : sameKey (.str p.1) (.str name) = (p.1 == name) := rfl
    unfold getEntry? at ih ⊢
    rw [List.map_cons, List.find?_cons, hkey, List.lookup_cons, Bool.beq_comm]
    cases name == p.1 with
    | true => rfl
    | false => exact ih

/-- Objects are alike if they have as many fields and each field of one is there in the other, with
a value that is alike. -/
theorem alike_ofFields (fields others : List (String × Datum)) :
    alike (.ofFields fields) (.ofFields others) = (fields.length == others.length &&
      fields.all fun p => ((others.lookup p.1).map (alike p.2)).getD false) := by
  have hentries : alikeEntries (fields.map fun p => (.str p.1, p.2))
      (others.map fun p => (.str p.1, p.2)) =
        fields.all fun p => ((others.lookup p.1).map (alike p.2)).getD false := by
    induction fields with
    | nil => rfl
    | cons p fields ih =>
      rw [List.map_cons, alikeEntries, getEntry?_fields, ih, List.all_cons]
      cases others.lookup p.1 <;> rfl
  show ((fields.map _).length == (others.map _).length && alikeEntries _ _) = _
  rw [List.length_map, List.length_map, hentries]

end Datum

namespace TemplateInfo

theorem payload_describe (t : TemplateInfo) : t.describe.data.getD [] = t.payload := by
  unfold describe
  cases h : t.payload <;> rfl

theorem alike_iff {s t : TemplateInfo} : s.alike t = true ↔ s.kind = t.kind ∧
    Datum.alike s.identifier t.identifier = true ∧ Datum.alikeList s.payload t.payload = true := by
  unfold alike
  rw [Bool.and_eq_true, Bool.and_eq_true, beq_iff_eq, and_assoc]

/-- Templates that are alike have descriptors that are alike. -/
theorem alike_describe {s t : TemplateInfo} (h : s.alike t = true) :
    Datum.alike s.describe.toDatum t.describe.toDatum = true := by
  obtain ⟨kind, identifier, payload⟩ := s
  obtain ⟨kind', identifier', payload'⟩ := t
  obtain ⟨rfl, hidentifier, hpayload⟩ : kind = kind' ∧ _ := alike_iff.1 h
  have htype : Datum.alike (.str kind.typeName) (.str kind.typeName) = true := beq_self_eq_true _
  unfold Descriptor.toDatum
  rw [Datum.alike_ofFields]
  -- The payload is in both descriptors or in neither.
  cases payload with
  | nil =>
    cases payload' with
    | nil => simp [describe, List.lookup_cons, htype, hidentifier]
    | cons y ys => cases hpayload
  | cons x xs =>
    cases payload' with
    | nil => cases hpayload
    | cons y ys =>
      have hdata : Datum.alike (.list none (x :: xs)) (.list none (y :: ys)) = true := hpayload
      simp [describe, List.lookup_cons, htype, hidentifier, hdata]

end TemplateInfo

/-! ## Registries and the calls behind them -/

/-- A kind of template with the constructor that it brings along. -/
structure TemplateType where
  kind : TemplateKind
  builder : Constructor
  kind_builder : builder.kind? = some kind

/-- The base kind with its constructor. -/
def TemplateType.base : TemplateType := ⟨.base, .base, rfl⟩

/-- What may be asked of a registry that changes it. -/
inductive RegistryCall where
  /-- A constructor is put under a type name. -/
  | register (typeName : String) (c : Constructor)
  /-- The constructor of a kind is put under the type name of the kind. -/
  | registerType (type : TemplateType)
  /-- All entries are removed. -/
  | clear

namespace RegistryCall

/-- The type name and the constructor that a call registers. -/
def registered? : RegistryCall → Option (String × Constructor)
  | .register typeName c => some (typeName, c)
  | .registerType type => some (type.kind.typeName, type.builder)
  | .clear => none

end RegistryCall

namespace Registry

def call (r : Registry) : RegistryCall → Registry
  | .register typeName c => r.register typeName c
  | .registerType type => r.register type.kind.typeName type.builder
  | .clear => empty

/-- The registry after some calls, without entries before the first one. -/
def run (calls : List RegistryCall) : Registry := calls.foldl call empty

example : run [.registerType .base] = initial := rfl

/-- The registrations since the registry was cleared last, the latest one first. -/
def registrations (calls : List RegistryCall) : List (String × Constructor) :=
  (calls.reverse.takeWhile fun c => c.registered?.isSome).filterMap RegistryCall.registered?

/-- The constructor that was registered last under a type name since the registry was cleared
last. -/
def lastRegistered? (calls : List RegistryCall) (typeName : String) : Option Constructor :=
  (registrations calls).lookup typeName

/-- A further call clears the registrations or adds one to them. -/
theorem registrations_concat (calls : List RegistryCall) (c : RegistryCall) :
    registrations (calls ++ [c]) =
      match c.registered? with
      | some p => p :: registrations calls
      | none => [] := by
  unfold registrations
  rw [List.reverse_concat]
  cases h : c.registered? with
  | none => rw [List.takeWhile_cons_of_neg (by simp [h])]; rfl
  | some p => rw [List.takeWhile_cons_of_pos (by simp [h]), List.filterMap_cons_some h]

/-- A call that registers writes an entry, and one that does not leaves none. -/
theorem call_eq (r : Registry) (c : RegistryCall) : r.call c =
    match c.registered? with
    | some p => Entries.put r p.1 p.2
    | none => [] := by
  cases c <;> rfl

/-- Behind a type name stands the constructor that was registered last under it. -/
theorem get?_run (calls : List RegistryCall) (typeName : String) :
    Entries.get? (run calls) typeName = lastRegistered? calls typeName := by
  unfold lastRegistered?
  induction calls using List.reverseRecOn with
  | nil => rfl
  | append_singleton calls c ih =>
    have hrun : run (calls ++ [c]) = (run calls).call c := List.foldl_append
    rw [hrun, call_eq, registrations_concat]
    cases c.registered? with
    | none => rfl
    | some p =>
      show Entries.get? (Entries.put _ p.1 p.2) typeName = List.lookup typeName (p :: _)
      rw [Entries.get?_put, ih, List.lookup_cons]
      by_cases h : p.1 = typeName
      · rw [if_pos h, h, beq_self_eq_true]
      · rw [if_neg h, beq_eq_false_iff_ne.2 (Ne.symm h)]

/-! ## The way back -/

/-- The fields of a descriptor rebuild the template of the descriptor. -/
theorem rebuildEntries_toDatum (r : Registry) (d : Descriptor) :
    r.rebuildEntries (d.toDatum.entries?.getD []) = r.rebuild d := by
  obtain ⟨type, identifier, data⟩ := d
  cases data <;> rfl

/-- The constructor behind the type name of a template is given its identifier and its payload. -/
theorem rebuild_describe {r : Registry} {t : TemplateInfo} {c : Constructor}
    (h : Entries.get? r t.kind.typeName = some c) :
    r.rebuild t.describe = .ok (c.build t.identifier t.payload) := by
  show r.create t.kind.typeName t.identifier (t.describe.data.getD []) = _
  unfold create
  rw [h, t.payload_describe]

/-- **Round trip of descriptors.** Take whatever calls of a registry and a template whose kind has
a constructor that gives the template back from its identifier and payload, and that was registered
last under the type name of the kind since the registry was cleared last. Then the descriptor of the
template, read field by field, is rebuilt to a template of this kind that is like it and that has a
descriptor like its own. If the constructor gives back the template itself, so does the registry. -/
theorem rebuildEntries_describe (calls : List RegistryCall) (t : TemplateInfo) (c : Constructor)
    (hkind : c.kind? = some t.kind)
    (hlast : lastRegistered? calls t.kind.typeName = some c)
    (hreverses : (c.build t.identifier t.payload).alike t = true) :
    ∃ t', (run calls).rebuildEntries (t.describe.toDatum.entries?.getD []) = .ok t' ∧
      (run calls).rebuild t.describe = .ok t' ∧
      c.kind? = some t'.kind ∧ t'.alike t = true ∧
      Datum.alike t'.describe.toDatum t.describe.toDatum = true ∧
      (c.build t.identifier t.payload = t → t' = t) := by
  have hrebuild : (run calls).rebuild t.describe = .ok (c.build t.identifier t.payload) :=
    rebuild_describe ((get?_run calls t.kind.typeName).trans hlast)
  have hsame : (c.build t.identifier t.payload).kind = t.kind :=
    (TemplateInfo.alike_iff.1 hreverses).1
  exact ⟨c.build t.identifier t.payload, (rebuildEntries_toDatum _ _).trans hrebuild, hrebuild,
    hsame ▸ hkind, hreverses, TemplateInfo.alike_describe hreverses, id⟩

/-- Payloads of one item that counts as nothing, an empty payload and a longer one. The type name is
shared with another kind, and was registered otherwise before the registry was cleared. -/
theorem rebuildEntries_describe_payloads :
    let other : TemplateType := ⟨⟨"Other", "T"⟩, ⟨"Other", some ⟨"Other", "T"⟩,
      fun identifier _ => ⟨⟨"Other", "T"⟩, identifier, []⟩⟩, rfl⟩
    let type : TemplateType := ⟨⟨"Whole", "T"⟩, ⟨"Whole", some ⟨"Whole", "T"⟩,
      fun identifier payload => ⟨⟨"Whole", "T"⟩, identifier, payload⟩⟩, rfl⟩
    let calls : List RegistryCall := [.registerType .base, .registerType type, .clear,
      .registerType other, .register "T" type.builder, .register "U" other.builder]
    lastRegistered? calls "T" = some type.builder ∧
    ∀ payload ∈ [[], [.int 0], [.str ""], [.null], [.bool false], [.list none []],
        [.int 0, .str "x"]],
      let t : TemplateInfo := ⟨type.kind, .str "a.hbs", payload⟩
      (type.builder.build t.identifier t.payload).alike t = true ∧
        ∃ t', (run calls).rebuildEntries (t.describe.toDatum.entries?.getD []) = .ok t' ∧
          t' = t := by
  intro other type calls
  have hreverses : ∀ payload ∈ [[], [.int 0], [.str ""], [.null], [.bool false], [.list none []],
      [.int 0, .str "x"]], TemplateInfo.alike (type.builder.build (.str "a.hbs") payload)
        ⟨type.kind, .str "a.hbs", payload⟩ = true := by
    decide
  refine ⟨rfl, fun payload hpayload => ⟨hreverses payload hpayload, ?_⟩⟩
  obtain ⟨t', hread, -, -, -, -, heq⟩ :=
    rebuildEntries_describe calls _ type.builder rfl rfl (hreverses payload hpayload)
  exact ⟨t', hread, heq rfl⟩

end Registry

end StyleUsage
