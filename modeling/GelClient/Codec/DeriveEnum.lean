import GelClient.Codec.Descriptor

/-!
# Derived enum decoders

`gel-derive`'s `derive_enum` turns a Rust enum into an `impl Queryable`: each unit variant becomes
an arm `#name_bstr => Ok(#type_name::#name)` of a `match buf { .. }`, labelled by its `rename`
attribute or its identifier; a variant with fields is refused, and `collect` stops at the first
variant refused. The macro's input and output are data: `ItemEnum` is the `syn` tree, and
`QueryableImpl` the generated implementation, by its arms. `FieldAttrs::from_syn` lives in
`attrib.rs`, not among the sources, so it is a parameter.
-/

namespace GelClient.Derive

/-! ## The macro -/

inductive Fields where
  | named
  | unnamed
  | unit
  deriving DecidableEq

/-- `syn::Variant`, with what `derive_enum` reads; `A` is the type of its attributes. -/
structure Variant (A : Type) where
  ident : RustStr
  attrs : A
  fields : Fields

structure ItemEnum (A : Type) where
  ident : RustStr
  variants : List (Variant A)

/-- `FieldAttrs` of `attrib.rs`: the `rename` attribute is the one `derive_enum` reads. -/
structure FieldAttrs where
  rename : Option RustStr

structure SynError where
  variant : RustStr
  message : String

structure Arm where
  nameBstr : List Byte
  name : RustStr

structure QueryableImpl where
  typeName : RustStr
  arms : List Arm

inductive DerivedDecodeError where
  | extraEnumValue
  deriving DecidableEq

def fieldsNotAllowed : String := "fields are not allowed in enum variants"

section Macro

variable {A : Type} (fromSyn : A → Except String FieldAttrs)

/-- The closure `derive_enum` maps over the variants: a unit variant's arm, or the error that
refuses the variant. -/
def branch (v : Variant A) : Except SynError Arm :=
  match v.fields with
  | .unit =>
    match fromSyn v.attrs with
    | .error msg => .error ⟨v.ident, msg⟩
    | .ok attrs =>
      let nameBstr := match attrs.rename with
        | some rename => rename.bytes
        | none => v.ident.bytes
      .ok ⟨nameBstr, v.ident⟩
  | _ => .error ⟨v.ident, fieldsNotAllowed⟩

/-- `derive_enum`: the arms of every variant, or the first error. -/
def deriveEnum (s : ItemEnum A) : Except SynError QueryableImpl := do
  let branches ← s.variants.mapM (branch fromSyn)
  pure ⟨s.ident, branches⟩

/-- The label a variant is read from, in the words of the attribute: its `rename`, else its
identifier; none when its attributes do not parse. -/
def label (v : Variant A) : Option (List Byte) :=
  match fromSyn v.attrs with
  | .ok attrs => some ((attrs.rename.map RustStr.bytes).getD v.ident.bytes)
  | .error _ => none

end Macro

def matchArms (buf : List Byte) : List Arm → Except DerivedDecodeError RustStr
  | [] => .error .extraEnumValue
  | arm :: arms => if buf = arm.nameBstr then .ok arm.name else matchArms buf arms

/-- The generated `Queryable::decode`; the decoder and arguments it is passed are unused. -/
def QueryableImpl.decode (impl : QueryableImpl) (buf : List Byte) :
    Except DerivedDecodeError RustStr :=
  matchArms buf impl.arms

/-! ## `mapM` over `Except` -/

section MapM

variable {α β ε : Type} {f : α → Except ε β}

theorem mapM_eq_ok : ∀ {l : List α} {l' : List β},
    l.mapM f = .ok l' → List.Forall₂ (fun a b => f a = .ok b) l l'
  | [], _, h => by cases h; exact .nil
  | a :: l, l', h => by
    rw [List.mapM_cons] at h
    cases ha : f a with
    | error e => rw [ha] at h; cases h
    | ok b =>
      cases hl : l.mapM f with
      | error e => simp only [ha, hl] at h; cases h
      | ok bs =>
        simp only [ha, hl] at h
        cases h
        exact .cons ha (mapM_eq_ok hl)

theorem ok_of_mapM_eq_ok {l : List α} {l' : List β} (h : l.mapM f = .ok l') {a : α} (ha : a ∈ l) :
    ∃ b, f a = .ok b := by
  have hf := mapM_eq_ok h
  clear h
  induction hf with
  | nil => cases ha
  | cons hab _ ih => rcases List.mem_cons.1 ha with rfl | ha; exacts [⟨_, hab⟩, ih ha]

end MapM

/-! ## What the macro accepts -/

section Macro

variable {A : Type} {fromSyn : A → Except String FieldAttrs}

theorem branch_eq_ok {v : Variant A} {arm : Arm} (h : branch fromSyn v = .ok arm) :
    label fromSyn v = some arm.nameBstr ∧ arm.name = v.ident := by
  unfold branch at h
  split at h
  · unfold label
    split at h
    · cases h
    · rename_i attrs hattrs
      cases h
      rw [hattrs]
      rcases attrs with ⟨_ | r⟩ <;> exact ⟨rfl, rfl⟩
  · cases h

/-! ## What the generated decoder does -/

theorem matchArms_eq : ∀ {vs : List (Variant A)} {arms : List Arm},
    List.Forall₂ (fun v arm => branch fromSyn v = .ok arm) vs arms → ∀ buf,
      matchArms buf arms = match vs.find? (fun v => decide (label fromSyn v = some buf)) with
        | some v => .ok v.ident
        | none => .error .extraEnumValue
  | _, _, .nil, _ => rfl
  | v :: vs, arm :: arms, .cons h hs, buf => by
    obtain ⟨hl, hn⟩ := branch_eq_ok h
    by_cases hb : buf = arm.nameBstr
    · subst hb
      simp [matchArms, List.find?_cons, hl, hn]
    · have hl' : label fromSyn v ≠ some buf := by rw [hl]; exact fun h' => hb (Option.some.inj h').symm
      simp only [matchArms, if_neg hb, List.find?_cons, hl', decide_False, matchArms_eq hs buf]

/-- For every enum `derive_enum` accepts, `decode` reads a buffer as the first variant whose label it
is, and answers `ExtraEnumValue` when it labels none. -/
theorem decode_deriveEnum {s : ItemEnum A} {impl : QueryableImpl}
    (h : deriveEnum fromSyn s = .ok impl) (buf : List Byte) :
    impl.decode buf = match s.variants.find? (fun v => decide (label fromSyn v = some buf)) with
      | some v => .ok v.ident
      | none => .error .extraEnumValue := by
  unfold deriveEnum at h
  cases hm : s.variants.mapM (branch fromSyn) with
  | error e => simp only [hm, bind, Except.bind] at h; cases h
  | ok arms =>
    simp only [hm, bind, Except.bind, pure, Except.pure, Except.ok.injEq] at h
    subst h
    exact matchArms_eq (mapM_eq_ok hm) buf

theorem label_isSome {s : ItemEnum A} {impl : QueryableImpl} (h : deriveEnum fromSyn s = .ok impl)
    {v : Variant A} (hv : v ∈ s.variants) : ∃ lbl, label fromSyn v = some lbl := by
  unfold deriveEnum at h
  cases hm : s.variants.mapM (branch fromSyn) with
  | error e => simp only [hm, bind, Except.bind] at h; cases h
  | ok arms =>
    obtain ⟨arm, harm⟩ := ok_of_mapM_eq_ok hm hv
    exact ⟨_, (branch_eq_ok harm).1⟩

/-- With pairwise distinct labels, the generated `decode` reads each variant back from its label,
and answers `ExtraEnumValue` to every other buffer. -/
theorem decode_label {s : ItemEnum A} {impl : QueryableImpl} (h : deriveEnum fromSyn s = .ok impl)
    (hnd : (s.variants.map (label fromSyn)).Nodup) :
    (∀ v ∈ s.variants, ∃ lbl, label fromSyn v = some lbl ∧ impl.decode lbl = .ok v.ident) ∧
      ∀ buf, (∀ v ∈ s.variants, label fromSyn v ≠ some buf) →
        impl.decode buf = .error .extraEnumValue := by
  refine ⟨fun v hv => ?_, fun buf hbuf => ?_⟩
  · obtain ⟨lbl, hl⟩ := label_isSome h hv
    refine ⟨lbl, hl, ?_⟩
    obtain ⟨pre, post, hs⟩ := List.append_of_mem hv
    rw [hs] at hnd
    have hpre : ∀ u ∈ pre, label fromSyn u ≠ some lbl := fun u hu hul => by
      simp only [List.map_append, List.map_cons] at hnd
      exact List.disjoint_of_nodup_append hnd (List.mem_map_of_mem _ hu)
        (hul ▸ hl ▸ List.mem_cons_self _ _)
    rw [decode_deriveEnum h, hs, List.find?_append, List.find?_eq_none.2 (by simpa using hpre)]
    simp [List.find?_cons, hl]
  · rw [decode_deriveEnum h, List.find?_eq_none.2 (by simpa using hbuf)]

def renameAttrs (rename : Option RustStr) : Except String FieldAttrs := .ok ⟨rename⟩

/-- `enum Color { Red, #[gel(rename = "green")] Green }`. -/
def colorEnum : ItemEnum (Option RustStr) :=
  ⟨⟨[0x43, 0x6f, 0x6c, 0x6f, 0x72], by decide⟩,
    [⟨⟨[0x52, 0x65, 0x64], by decide⟩, none, .unit⟩,
     ⟨⟨[0x47, 0x72, 0x65, 0x65, 0x6e], by decide⟩, some ⟨[0x67, 0x72, 0x65, 0x65, 0x6e], by decide⟩, .unit⟩]⟩

def colorImpl : QueryableImpl :=
  ⟨colorEnum.ident, [⟨[0x52, 0x65, 0x64], ⟨[0x52, 0x65, 0x64], by decide⟩⟩,
    ⟨[0x67, 0x72, 0x65, 0x65, 0x6e], ⟨[0x47, 0x72, 0x65, 0x65, 0x6e], by decide⟩⟩]⟩

theorem decode_label_color :
    deriveEnum renameAttrs colorEnum = .ok colorImpl ∧
      (colorEnum.variants.map (label renameAttrs)).Nodup ∧
      (∀ v ∈ colorEnum.variants, ∃ lbl, label renameAttrs v = some lbl ∧ colorImpl.decode lbl = .ok v.ident) ∧
      ∀ buf, (∀ v ∈ colorEnum.variants, label renameAttrs v ≠ some buf) →
        colorImpl.decode buf = .error .extraEnumValue :=
  have h : deriveEnum renameAttrs colorEnum = .ok colorImpl := rfl
  have hnd : (colorEnum.variants.map (label renameAttrs)).Nodup := by decide
  ⟨h, hnd, decode_label h hnd⟩

/-- `derive_enum` does not check that labels are distinct: a variant whose label repeats an earlier
one's is never decoded, whatever the buffer. -/
theorem decode_ne_shadowed {s : ItemEnum A} {impl : QueryableImpl}
    (h : deriveEnum fromSyn s = .ok impl) (hids : (s.variants.map fun v => v.ident.bytes).Nodup)
    {pre mid post : List (Variant A)} {u v : Variant A} (hs : s.variants = pre ++ u :: mid ++ v :: post)
    (hlabel : label fromSyn u = label fromSyn v) (buf : List Byte) :
    impl.decode buf ≠ .ok v.ident := by
  have hother : ∀ w ∈ (pre ++ u :: mid) ++ post, w.ident.bytes ≠ v.ident.bytes := by
    rw [hs, List.map_append, List.map_cons, List.nodup_append, List.nodup_cons] at hids
    obtain ⟨-, ⟨hvpost, -⟩, hdisj⟩ := hids
    intro w hw hwv
    rcases List.mem_append.1 hw with hw | hw
    · exact hdisj (List.mem_map_of_mem _ hw) (hwv ▸ List.mem_cons_self _ _)
    · exact hvpost (hwv ▸ List.mem_map_of_mem _ hw)
  have hok : ∀ w ∈ (pre ++ u :: mid) ++ post, (Except.ok w.ident : Except DerivedDecodeError RustStr) ≠ .ok v.ident :=
    fun w hw heq => hother w hw (congrArg RustStr.bytes (Except.ok.inj heq))
  rw [decode_deriveEnum h, hs, List.find?_append]
  cases hA : (pre ++ u :: mid).find? (fun w => decide (label fromSyn w = some buf)) with
  | some w => exact hok w (List.mem_append_left _ (List.mem_of_find?_eq_some hA))
  | none =>
    have hu : label fromSyn v ≠ some buf := by
      simpa [hlabel] using List.find?_eq_none.1 hA u (by simp)
    rw [Option.none_or, List.find?_cons_of_neg _ (by simpa using hu)]
    cases hP : post.find? (fun w => decide (label fromSyn w = some buf)) with
    | some w => exact hok w (List.mem_append_right _ (List.mem_of_find?_eq_some hP))
    | none => exact fun heq => nomatch heq

def shadeRed : Variant (Option RustStr) := ⟨⟨[0x52, 0x65, 0x64], by decide⟩, none, .unit⟩

def shadeCrimson : Variant (Option RustStr) :=
  ⟨⟨[0x43, 0x72, 0x69, 0x6d, 0x73, 0x6f, 0x6e], by decide⟩, some ⟨[0x52, 0x65, 0x64], by decide⟩, .unit⟩

/-- `enum Shade { Red, #[gel(rename = "Red")] Crimson }`. -/
def shadeEnum : ItemEnum (Option RustStr) :=
  ⟨⟨[0x53, 0x68, 0x61, 0x64, 0x65], by decide⟩, [shadeRed, shadeCrimson]⟩

def shadeImpl : QueryableImpl :=
  ⟨shadeEnum.ident, [⟨[0x52, 0x65, 0x64], shadeRed.ident⟩, ⟨[0x52, 0x65, 0x64], shadeCrimson.ident⟩]⟩

theorem decode_ne_shadowed_crimson :
    deriveEnum renameAttrs shadeEnum = .ok shadeImpl ∧
      (shadeEnum.variants.map fun v => v.ident.bytes).Nodup ∧
      shadeEnum.variants = [] ++ shadeRed :: [] ++ shadeCrimson :: [] ∧
      label renameAttrs shadeRed = label renameAttrs shadeCrimson ∧
      ∀ buf, shadeImpl.decode buf ≠ .ok shadeCrimson.ident :=
  have h : deriveEnum renameAttrs shadeEnum = .ok shadeImpl := rfl
  have hids : (shadeEnum.variants.map fun v => v.ident.bytes).Nodup := by decide
  ⟨h, hids, rfl, rfl, @decode_ne_shadowed _ _ _ _ h hids [] [] [] _ _ rfl rfl⟩

end Macro

end GelClient.Derive
