import GelClient.Codec.Scalar
import Mathlib.Data.Fintype.Card
import Mathlib.Logic.Relation

/-!
# Descriptor checks

Each argument binding checks the type descriptor the server sent for its position
(`ScalarArg::check_descriptor`). A `Scalar` may name its base type by position, and
`check_scalar` follows those links until it meets a `BaseScalar`, or a `Scalar` without a base,
whose id it compares with the expected one. It is general recursion and never returns on a cycle,
so `checkScalar` carries fuel. Two step lemmas say what one call does; from them every result is
right (`ScalarChain` is the spec's algorithm as a relation), and on a block without cycles some
fuel gives a result that more fuel never changes. The last section models the checks of the
string, enum and range bindings.
-/

namespace GelClient.Codec

/-! ## Descriptors

Modelled from the spec: the descriptor types, the protocol version, `DescriptorContext` with its
`get` and `wrong_type`, and `String::uuid()` live outside `raw_scalar.rs`. -/

structure TypePos where
  pos : BitVec 16
  deriving DecidableEq, Repr

instance : Finite TypePos :=
  Finite.of_injective (fun p : TypePos => p.pos.toFin) fun a b h => by
    cases a; cases b; exact congrArg _ (BitVec.eq_of_toFin_eq h)

deriving instance DecidableEq for Uuid

inductive Descriptor where
  | set (typePos : TypePos)
  | objectShape (elements : List TypePos)
  | baseScalar (id : Uuid)
  | scalar (id : Uuid) (baseTypePos : Option TypePos)
  | tuple (elementTypes : List TypePos)
  | array (typePos : TypePos)
  | enumeration (members : List String)
  | range (typePos : TypePos)
  deriving DecidableEq

structure ProtocolVersion where
  majorVer : BitVec 16
  minorVer : BitVec 16
  deriving DecidableEq

def ProtocolVersion.is2 (p : ProtocolVersion) : Bool := decide (2 ≤ p.majorVer.toNat)

structure DescriptorContext where
  proto : ProtocolVersion
  descriptors : List Descriptor

inductive DescriptorMismatch where
  /-- `get` past the end of the block. -/
  | invalidTypeDescriptor
  /-- `wrong_type`: the descriptor found and the type the binding expected. -/
  | wrongType (actual : Descriptor) (expected : String)
  deriving DecidableEq

def DescriptorContext.get (ctx : DescriptorContext) (typePos : TypePos) :
    Except DescriptorMismatch Descriptor :=
  match ctx.descriptors[typePos.pos.toNat]? with
  | some desc => .ok desc
  | none => .error .invalidTypeDescriptor

theorem DescriptorContext.mem_of_get {ctx : DescriptorContext} {pos : TypePos} {desc : Descriptor}
    (h : ctx.get pos = .ok desc) : desc ∈ ctx.descriptors := by
  unfold DescriptorContext.get at h
  split at h
  · cases h; exact List.getElem?_mem ‹_›
  · cases h

def DescriptorContext.wrongType (_ctx : DescriptorContext) (descriptor : Descriptor)
    (expected : String) : DescriptorMismatch :=
  .wrongType descriptor expected

def stdStrId : Uuid := ⟨List.replicate 14 0 ++ [0x01, 0x01], by simp⟩

/-! ## `check_scalar` -/

/-- `check_scalar`, with `fuel` bounding its recursion along `base_type_pos` links: `none` when
the fuel runs out. -/
def checkScalar : Nat → DescriptorContext → TypePos → Uuid → String →
    Option (Except DescriptorMismatch Unit)
  | 0, _, _, _, _ => none
  | fuel + 1, ctx, typePos, typeId, name =>
    match ctx.get typePos with
    | .error e => some (.error e)
    | .ok desc =>
      match desc with
      | .scalar _ (some base) => checkScalar fuel ctx base typeId name
      | .scalar id none =>
        if ctx.proto.is2 = true ∧ id = typeId then some (.ok ())
        else some (.error (ctx.wrongType desc name))
      | .baseScalar id =>
        if id = typeId then some (.ok ()) else some (.error (ctx.wrongType desc name))
      | _ => some (.error (ctx.wrongType desc name))

def DescriptorContext.baseOf (ctx : DescriptorContext) (pos : TypePos) : Option TypePos :=
  match ctx.get pos with
  | .ok (.scalar _ base) => base
  | _ => none

/-- Spec §4.3, descriptor check, as a relation: the base links from `pos` reach a `BaseScalar`
with the expected id, or, from protocol 2 on, a `Scalar` without a base with that id. -/
inductive ScalarChain (ctx : DescriptorContext) (typeId : Uuid) : TypePos → Prop
  | baseScalar {pos : TypePos} : ctx.get pos = .ok (.baseScalar typeId) → ScalarChain ctx typeId pos
  | scalar {pos : TypePos} : ctx.get pos = .ok (.scalar typeId none) → ctx.proto.is2 = true →
      ScalarChain ctx typeId pos
  | base {pos base : TypePos} {id : Uuid} : ctx.get pos = .ok (.scalar id (some base)) →
      ScalarChain ctx typeId base → ScalarChain ctx typeId pos

section Step

variable {ctx : DescriptorContext} {pos base : TypePos} {typeId : Uuid} {name : String}

theorem baseOf_eq_some : ctx.baseOf pos = some base ↔ ∃ id, ctx.get pos = .ok (.scalar id (some base)) := by
  unfold DescriptorContext.baseOf
  split <;> simp_all

theorem checkScalar_succ_of_baseOf (h : ctx.baseOf pos = some base) (fuel : Nat) :
    checkScalar (fuel + 1) ctx pos typeId name = checkScalar fuel ctx base typeId name := by
  obtain ⟨id, hget⟩ := baseOf_eq_some.mp h
  simp only [checkScalar, hget]

theorem checkScalar_decides (h : ctx.baseOf pos = none) :
    ∃ r, ∀ fuel, checkScalar (fuel + 1) ctx pos typeId name = some r := by
  unfold DescriptorContext.baseOf at h
  simp only [checkScalar]
  split
  · exact ⟨_, fun _ => rfl⟩
  · split <;> (try split) <;> first | exact ⟨_, fun _ => rfl⟩ | exact ⟨_, rfl⟩ | simp_all

theorem scalarChain_of_baseOf (h : ctx.baseOf pos = some base) :
    ScalarChain ctx typeId pos ↔ ScalarChain ctx typeId base := by
  obtain ⟨id, hget⟩ := baseOf_eq_some.mp h
  constructor
  · rintro (hg | ⟨hg, -⟩ | ⟨hg, hb⟩) <;> rw [hget] at hg <;> cases hg
    exact hb
  · exact ScalarChain.base hget

theorem checkScalar_one_iff (h : ctx.baseOf pos = none) {r : Except DescriptorMismatch Unit}
    (hr : checkScalar 1 ctx pos typeId name = some r) : r = .ok () ↔ ScalarChain ctx typeId pos := by
  unfold DescriptorContext.baseOf at h
  simp only [checkScalar] at hr
  constructor
  · rintro rfl
    split at hr
    · cases hr
    · rename_i desc hget
      split at hr <;> (try split_ifs at hr) <;> cases hr <;> simp_all
      · exact ScalarChain.scalar hget (by simp_all)
      · exact ScalarChain.baseScalar hget
  · intro hc
    cases hc with
    | baseScalar hg => simp_all
    | scalar hg h2 => simp_all
    | base hg _ => simp_all

theorem checkScalar_mono {r : Except DescriptorMismatch Unit} :
    ∀ {fuel fuel' : Nat} {pos : TypePos}, fuel ≤ fuel' →
      checkScalar fuel ctx pos typeId name = some r → checkScalar fuel' ctx pos typeId name = some r
  | 0, _, _, _, h => by cases h
  | fuel + 1, fuel' + 1, pos, hle, h => by
    cases hb : ctx.baseOf pos with
    | none =>
      obtain ⟨r', hr'⟩ := @checkScalar_decides ctx pos typeId name hb
      rw [hr'] at h ⊢
      exact h
    | some base =>
      rw [checkScalar_succ_of_baseOf hb] at h ⊢
      exact checkScalar_mono (by omega) h

/-- Any result `check_scalar` gives is right: `Ok` exactly on a chain to the expected type. -/
theorem checkScalar_some_iff {r : Except DescriptorMismatch Unit} :
    ∀ {fuel : Nat} {pos : TypePos}, checkScalar fuel ctx pos typeId name = some r →
      (r = .ok () ↔ ScalarChain ctx typeId pos)
  | 0, _, h => by cases h
  | fuel + 1, pos, h => by
    cases hb : ctx.baseOf pos with
    | none =>
      obtain ⟨r', hr'⟩ := @checkScalar_decides ctx pos typeId name hb
      exact checkScalar_one_iff hb ((hr' 0).trans ((hr' fuel).symm.trans h))
    | some base =>
      rw [checkScalar_succ_of_baseOf hb] at h
      rw [scalarChain_of_baseOf hb]
      exact checkScalar_some_iff h

end Step

/-! ## Termination -/

def DescriptorContext.Acyclic (ctx : DescriptorContext) : Prop :=
  ∀ pos, ¬ Relation.TransGen (fun p q => ctx.baseOf p = some q) pos pos

/-- The server's order: every base position lies below the `Scalar` that names it. -/
def DescriptorContext.TopologicallyOrdered (ctx : DescriptorContext) : Prop :=
  ∀ pos base, ctx.baseOf pos = some base → base.pos.toNat < pos.pos.toNat

theorem DescriptorContext.acyclic_of_topologicallyOrdered {ctx : DescriptorContext}
    (h : ctx.TopologicallyOrdered) : ctx.Acyclic := by
  have hlt : ∀ {p q}, Relation.TransGen (fun p q => ctx.baseOf p = some q) p q →
      q.pos.toNat < p.pos.toNat := by
    intro p q hpq
    induction hpq with
    | single hb => exact h _ _ hb
    | tail _ hb ih => exact Nat.lt_trans (h _ _ hb) ih
  exact fun pos hc => Nat.lt_irrefl _ (hlt hc)

theorem DescriptorContext.wellFounded_base {ctx : DescriptorContext} (hacyc : ctx.Acyclic) :
    WellFounded fun q p => ctx.baseOf p = some q := by
  let R := fun q p => ctx.baseOf p = some q
  have : IsTrans TypePos (Relation.TransGen R) := ⟨fun _ _ _ => Relation.TransGen.trans⟩
  have : IsIrrefl TypePos (Relation.TransGen R) := ⟨fun p h => hacyc p h.swap⟩
  have hwf : WellFounded (Relation.TransGen R) := Finite.wellFounded_of_trans_of_irrefl _
  exact Subrelation.wf (fun h => @Relation.TransGen.single TypePos R _ _ h) hwf

theorem checkScalar_isSome {ctx : DescriptorContext} (hacyc : ctx.Acyclic) (typeId : Uuid)
    (name : String) (pos : TypePos) : ∃ fuel r, checkScalar fuel ctx pos typeId name = some r := by
  induction pos using (DescriptorContext.wellFounded_base hacyc).induction with
  | _ pos ih =>
    cases hb : ctx.baseOf pos with
    | none =>
      obtain ⟨r, hr⟩ := @checkScalar_decides ctx pos typeId name hb
      exact ⟨1, r, hr 0⟩
    | some base =>
      obtain ⟨fuel, r, h⟩ := ih base hb
      exact ⟨fuel + 1, r, (checkScalar_succ_of_baseOf hb fuel).trans h⟩

/-- On a block whose base links have no cycle, `check_scalar` returns for some fuel, more fuel
gives the same result, and that result is `Ok` exactly on a chain to the expected type. -/
theorem checkScalar_terminates {ctx : DescriptorContext} (hacyc : ctx.Acyclic) (pos : TypePos)
    (typeId : Uuid) (name : String) :
    ∃ r, (∃ fuel, checkScalar fuel ctx pos typeId name = some r) ∧
      (∀ fuel r', checkScalar fuel ctx pos typeId name = some r' → r' = r) ∧
      (r = .ok () ↔ ScalarChain ctx typeId pos) := by
  obtain ⟨fuel, r, h⟩ := checkScalar_isSome hacyc typeId name pos
  refine ⟨r, ⟨fuel, h⟩, fun fuel' r' h' => ?_, checkScalar_some_iff h⟩
  have h1 := checkScalar_mono (Nat.le_max_left fuel fuel') h
  have h2 := checkScalar_mono (Nat.le_max_right fuel fuel') h'
  exact Option.some.inj (h2.symm.trans h1)

def customStrCtx : DescriptorContext :=
  ⟨⟨2, 0⟩, [.baseScalar stdStrId, .scalar ⟨List.replicate 16 0x11, rfl⟩ (some ⟨0⟩)]⟩

theorem customStrCtx_topologicallyOrdered : customStrCtx.TopologicallyOrdered := by
  intro pos base h
  obtain ⟨id, hget⟩ := baseOf_eq_some.mp h
  simp only [DescriptorContext.get, customStrCtx] at hget
  split at hget
  · rename_i desc hd
    match hp : pos.pos.toNat, hd with
    | 1, hd =>
      simp only [List.getElem?_cons_succ, List.getElem?_cons_zero, Option.some.injEq] at hd
      subst hd; cases hget; decide
    | 0, hd => simp only [List.getElem?_cons_zero, Option.some.injEq] at hd; subst hd; cases hget
    | n + 2, hd => simp at hd
  · cases hget

theorem checkScalar_terminates_customStr :
    customStrCtx.Acyclic ∧ ∃ r, (∃ fuel, checkScalar fuel customStrCtx ⟨1⟩ stdStrId "std::str" = some r) ∧
      (∀ fuel r', checkScalar fuel customStrCtx ⟨1⟩ stdStrId "std::str" = some r' → r' = r) ∧
      (r = .ok () ↔ ScalarChain customStrCtx stdStrId ⟨1⟩) :=
  have hacyc := DescriptorContext.acyclic_of_topologicallyOrdered customStrCtx_topologicallyOrdered
  ⟨hacyc, checkScalar_terminates hacyc ⟨1⟩ stdStrId "std::str"⟩

/-! ## Strings, enumerations and ranges -/

def stringCheckDescriptor (fuel : Nat) (ctx : DescriptorContext) (pos : TypePos) :
    Option (Except DescriptorMismatch Unit) :=
  checkScalar fuel ctx pos stdStrId "std::str"

/-- `ScalarArg for &str`: an `Enumeration` is accepted as it is (an enum label is a string);
anything else is checked as `String` is. -/
def strCheckDescriptor (fuel : Nat) (ctx : DescriptorContext) (pos : TypePos) :
    Option (Except DescriptorMismatch Unit) :=
  match ctx.get pos with
  | .error e => some (.error e)
  | .ok (.enumeration _) => some (.ok ())
  | .ok _ => checkScalar fuel ctx pos stdStrId "std::str"

/-- `ScalarArg for EnumValue`: the `if let Enumeration(_)` branch is empty, so every descriptor
ends in `wrong_type(desc, "enum")`. -/
def enumValueCheckDescriptor (ctx : DescriptorContext) (pos : TypePos) :
    Except DescriptorMismatch Unit := do
  let desc ← ctx.get pos
  throw (ctx.wrongType desc "enum")

/-- The `Queryable::check_descriptor` that `derive_enum` generates: any `Enumeration` is
accepted, its members unchecked. -/
def deriveEnumCheckDescriptor (ctx : DescriptorContext) (typePos : TypePos) :
    Except DescriptorMismatch Unit := do
  let desc ← ctx.get typePos
  match desc with
  | .enumeration _ => pure ()
  | _ => throw (ctx.wrongType desc "str")

def rangeCheckDescriptor (checkT : DescriptorContext → TypePos → Option (Except DescriptorMismatch Unit))
    (ctx : DescriptorContext) (pos : TypePos) : Option (Except DescriptorMismatch Unit) :=
  match ctx.get pos with
  | .error e => some (.error e)
  | .ok (.range typePos) => checkT ctx typePos
  | .ok desc => some (.error (ctx.wrongType desc "range"))

/-- On a block without cycles, the check of `Range<T>` for a scalar `T` returns for some fuel,
and accepts exactly a `Range` whose element type's base chain reaches `T`. -/
theorem rangeCheckDescriptor_checkScalar {ctx : DescriptorContext} (hacyc : ctx.Acyclic)
    (pos : TypePos) (typeId : Uuid) (name : String) :
    ∃ fuel r, rangeCheckDescriptor (fun ctx p => checkScalar fuel ctx p typeId name) ctx pos = some r ∧
      (r = .ok () ↔ ∃ typePos, ctx.get pos = .ok (.range typePos) ∧ ScalarChain ctx typeId typePos) := by
  cases hget : ctx.get pos with
  | error e => exact ⟨0, .error e, by simp [rangeCheckDescriptor, hget], by simp⟩
  | ok desc =>
    cases desc with
    | range typePos =>
      obtain ⟨fuel, r, h⟩ := checkScalar_isSome hacyc typeId name typePos
      refine ⟨fuel, r, by simp [rangeCheckDescriptor, hget, h], ?_⟩
      simp [checkScalar_some_iff h]
    | _ =>
      refine ⟨0, _, by simp only [rangeCheckDescriptor, hget]; rfl, ?_⟩
      simp

def strRangeCtx : DescriptorContext := ⟨⟨2, 0⟩, [.baseScalar stdStrId, .range ⟨0⟩]⟩

theorem rangeCheckDescriptor_checkScalar_strRange :
    strRangeCtx.Acyclic ∧ ∃ fuel r,
      rangeCheckDescriptor (fun ctx p => checkScalar fuel ctx p stdStrId "std::str") strRangeCtx ⟨1⟩ =
        some r ∧
      (r = .ok () ↔ ∃ typePos, strRangeCtx.get ⟨1⟩ = .ok (.range typePos) ∧
        ScalarChain strRangeCtx stdStrId typePos) :=
  have hacyc : strRangeCtx.Acyclic :=
    DescriptorContext.acyclic_of_topologicallyOrdered fun _ _ h => by
      obtain ⟨_, hget⟩ := baseOf_eq_some.mp h
      simpa [strRangeCtx] using DescriptorContext.mem_of_get hget
  ⟨hacyc, rangeCheckDescriptor_checkScalar hacyc ⟨1⟩ stdStrId "std::str"⟩

def colorCtx : DescriptorContext := ⟨⟨2, 0⟩, [.enumeration ["red", "green"]]⟩

/-- At an enumeration, `EnumValue` and `String` fail while `&str` and a derived enum succeed. -/
theorem enumeration_rejected_by_enumValue_and_string :
    colorCtx.get ⟨0⟩ = .ok (.enumeration ["red", "green"]) ∧
      enumValueCheckDescriptor colorCtx ⟨0⟩ = .error (.wrongType (.enumeration ["red", "green"]) "enum") ∧
      (∀ fuel, stringCheckDescriptor (fuel + 1) colorCtx ⟨0⟩ =
        some (.error (.wrongType (.enumeration ["red", "green"]) "std::str"))) ∧
      (∀ fuel, strCheckDescriptor fuel colorCtx ⟨0⟩ = some (.ok ())) ∧
      deriveEnumCheckDescriptor colorCtx ⟨0⟩ = .ok () :=
  ⟨rfl, rfl, fun _ => rfl, fun _ => rfl, rfl⟩

end GelClient.Codec
