import Mathlib.Data.List.Basic
import Mathlib.Data.List.TakeWhile

/-!
# Patterns

A pattern is tried at the front of a text, and what it gives are the ways in which it matches there,
in the order of trial: repeated characters are taken as far as they go, and given back one by one.
The order tells which way is found first, but not which ways there are (`mem_ways`). Two patterns
that are to match a text up to its end cut it in two (`cut?_sound`, `exists_cut?`).
-/

namespace StyleUsage.Text

/-- What a text may begin with. -/
inductive Pattern where
  /-- One character of a class. -/
  | one (accepts : Char → Bool)
  /-- Characters of a class, as many as there are or fewer. -/
  | many (accepts : Char → Bool)
  /-- One pattern with another behind it. -/
  | followed (first second : Pattern)

namespace Pattern

/-- The ways to take characters of a class from the front of a text, the longest first, each with
what is left. -/
def fronts (accepts : Char → Bool) : List Char → List (List Char × List Char)
  | [] => [([], [])]
  | c :: cs =>
    (if accepts c then (fronts accepts cs).map fun p => (c :: p.1, p.2) else []) ++ [([], c :: cs)]

/-- The ways in which a pattern matches the front of a text, in the order of trial, each with what
is left. -/
def ways : Pattern → List Char → List (List Char × List Char)
  | one _, [] => []
  | one accepts, c :: cs => if accepts c then [([c], cs)] else []
  | many accepts, cs => fronts accepts cs
  | followed first second, cs =>
    (first.ways cs).flatMap fun p => (second.ways p.2).map fun q => (p.1 ++ q.1, q.2)

/-- The texts that a pattern matches. -/
inductive Matches : Pattern → List Char → Prop where
  | one {accepts : Char → Bool} {c : Char} (h : accepts c = true) : Matches (.one accepts) [c]
  | many {accepts : Char → Bool} {x : List Char} (h : ∀ c ∈ x, accepts c = true) :
    Matches (.many accepts) x
  | followed {first second : Pattern} {x y : List Char} (hx : Matches first x)
    (hy : Matches second y) : Matches (.followed first second) (x ++ y)

variable {cs x y rest : List Char} {accepts : Char → Bool} {first second : Pattern}

theorem matches_one_iff : (one accepts).Matches x ↔ ∃ c, accepts c = true ∧ x = [c] := by
  constructor
  · rintro ⟨h⟩
    exact ⟨_, h, rfl⟩
  · rintro ⟨c, h, rfl⟩
    exact .one h

theorem matches_many_iff : (many accepts).Matches x ↔ ∀ c ∈ x, accepts c = true := by
  constructor
  · rintro ⟨⟩
    assumption
  · exact .many

theorem matches_followed_iff : (followed first second).Matches x ↔
    ∃ y z, x = y ++ z ∧ first.Matches y ∧ second.Matches z := by
  constructor
  · intro h
    cases h with
    | followed hy hz => exact ⟨_, _, rfl, hy, hz⟩
  · rintro ⟨y, z, rfl, hy, hz⟩
    exact .followed hy hz

theorem matches_one_followed_many_iff {accepts' : Char → Bool} :
    (followed (one accepts) (many accepts')).Matches x ↔
      ∃ c y, x = c :: y ∧ accepts c = true ∧ ∀ a ∈ y, accepts' a = true := by
  rw [matches_followed_iff]
  constructor
  · rintro ⟨y, z, rfl, hy, hz⟩
    obtain ⟨c, hc, rfl⟩ := matches_one_iff.1 hy
    exact ⟨c, z, rfl, hc, matches_many_iff.1 hz⟩
  · rintro ⟨c, y, rfl, hc, hy⟩
    exact ⟨[c], y, rfl, .one hc, .many hy⟩

/-! ## The ways to match -/

theorem mem_fronts :
    (x, rest) ∈ fronts accepts cs ↔ cs = x ++ rest ∧ ∀ c ∈ x, accepts c = true := by
  induction cs generalizing x with
  | nil =>
    rw [fronts, List.mem_singleton, Prod.mk.injEq, List.nil_eq_append_iff]
    constructor
    · rintro ⟨rfl, rfl⟩
      exact ⟨⟨rfl, rfl⟩, List.forall_mem_nil _⟩
    · exact And.left
  | cons c cs ih =>
    rw [fronts, List.mem_append, List.mem_singleton, Prod.mk.injEq]
    constructor
    · rintro (h | ⟨rfl, rfl⟩)
      · split at h
        · next hc =>
          obtain ⟨p, hp, heq⟩ := List.mem_map.1 h
          cases heq
          obtain ⟨hcs, hx⟩ := ih.1 hp
          exact ⟨congrArg (c :: ·) hcs, List.forall_mem_cons.2 ⟨hc, hx⟩⟩
        · cases h
      · exact ⟨rfl, List.forall_mem_nil _⟩
    · rintro ⟨heq, hx⟩
      cases x with
      | nil => exact .inr ⟨rfl, heq.symm⟩
      | cons a x =>
        obtain ⟨rfl, hcs⟩ := List.cons.inj heq
        obtain ⟨hc, hx⟩ := List.forall_mem_cons.1 hx
        rw [if_pos hc]
        exact .inl (List.mem_map.2 ⟨(x, rest), ih.2 ⟨hcs, hx⟩, rfl⟩)

/-- The ways in which a pattern matches the front of a text are the texts that it matches and that
stand there. -/
theorem mem_ways {pattern : Pattern} :
    (x, rest) ∈ pattern.ways cs ↔ cs = x ++ rest ∧ pattern.Matches x := by
  induction pattern generalizing cs x rest with
  | one accepts =>
    rw [matches_one_iff]
    cases cs with
    | nil =>
      constructor
      · intro h
        cases h
      · rintro ⟨heq, c, -, rfl⟩
        cases heq
    | cons c cs =>
      rw [ways]
      constructor
      · intro h
        split at h
        · next hc =>
          cases List.mem_singleton.1 h
          exact ⟨rfl, c, hc, rfl⟩
        · cases h
      · rintro ⟨heq, a, ha, rfl⟩
        cases heq
        rw [if_pos ha]
        exact List.mem_singleton_self _
  | many accepts => rw [ways, mem_fronts, matches_many_iff]
  | followed first second ihFirst ihSecond =>
    rw [ways, List.mem_flatMap, matches_followed_iff]
    constructor
    · rintro ⟨p, hp, h⟩
      obtain ⟨q, hq, heq⟩ := List.mem_map.1 h
      cases heq
      obtain ⟨rfl, hfirst⟩ := ihFirst.1 hp
      obtain ⟨hrest, hsecond⟩ := ihSecond.1 hq
      rw [hrest, List.append_assoc]
      exact ⟨rfl, p.1, q.1, rfl, hfirst, hsecond⟩
    · rintro ⟨rfl, y, z, rfl, hfirst, hsecond⟩
      have hp : (y, z ++ rest) ∈ first.ways (y ++ z ++ rest) :=
        ihFirst.2 ⟨List.append_assoc .., hfirst⟩
      exact ⟨_, hp, List.mem_map.2 ⟨(z, rest), ihSecond.2 ⟨rfl, hsecond⟩, rfl⟩⟩

/-! ## Two parts of a text -/

/-- Whether this may be left at the end of a text: nothing, or one line feed. -/
def isEnd (rest : List Char) : Bool := rest == [] || rest == ['\n']

/-- The parts of a text that two patterns match one behind the other up to its end, in the first way
that is found. -/
def cut? (first second : Pattern) (cs : List Char) : Option (List Char × List Char) :=
  (((first.ways cs).flatMap fun p => (second.ways p.2).map fun q => (p.1, q)).find?
    fun t => isEnd t.2.2).map fun t => (t.1, t.2.1)

/-- Two patterns cut a text in two in some way if there is one. -/
theorem cut?_sound (h : cut? first second cs = some (x, y)) :
    ∃ rest, isEnd rest = true ∧ cs = x ++ (y ++ rest) ∧ first.Matches x ∧ second.Matches y := by
  obtain ⟨⟨x', y', rest⟩, hfind, heq⟩ := Option.map_eq_some_iff.1 h
  cases heq
  have hend := List.find?_some hfind
  obtain ⟨p, hp, hmem⟩ := List.mem_flatMap.1 (List.mem_of_find?_eq_some hfind)
  obtain ⟨q, hq, heq⟩ := List.mem_map.1 hmem
  cases heq
  obtain ⟨rfl, hx⟩ := mem_ways.1 hp
  obtain ⟨hrest, hy⟩ := mem_ways.1 hq
  exact ⟨rest, hend, congrArg (p.1 ++ ·) hrest, hx, hy⟩

theorem exists_cut? (hrest : isEnd rest = true) (hcs : cs = x ++ (y ++ rest))
    (hx : first.Matches x) (hy : second.Matches y) : ∃ p, cut? first second cs = some p := by
  have hmem : (x, y, rest) ∈
      (first.ways cs).flatMap fun p => (second.ways p.2).map fun q => (p.1, q) := by
    refine List.mem_flatMap.2 ⟨(x, y ++ rest), mem_ways.2 ⟨hcs, hx⟩, ?_⟩
    exact List.mem_map.2 ⟨(y, rest), mem_ways.2 ⟨rfl, hy⟩, rfl⟩
  obtain ⟨t, ht⟩ := Option.isSome_iff_exists.1
    (List.find?_isSome (p := fun t => isEnd t.2.2).2 ⟨_, hmem, hrest⟩)
  exact ⟨_, Option.map_eq_some_iff.2 ⟨t, ht, rfl⟩⟩

end Pattern

end StyleUsage.Text
