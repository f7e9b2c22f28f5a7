import LayeredConfig.Conversion.Target.Reader
import LayeredConfig.Proofs.Attempts
import LayeredConfig.Proofs.Collections
import LayeredConfig.Proofs.Settling

/-! The classes of converted values. A user-defined class is served as the class it derives from, and
what comes out is a value of that class: for scalars a value is of the class that was asked for if and
only if that class is built in or an enumeration. -/

namespace LayeredConfig.Conversion

variable {σ : Type}

namespace Class

def root : Class → Class
  | derived _ _ base => base.root
  | c => c

def isScalar (c : Class) : Bool :=
  match c.root with
  | list | tuple | set | frozenset | mapping => false
  | _ => true

def Apart : Class → Prop
  | derived module name base =>
    (∀ c ∈ builtIn, (derived module name base).qualified ≠ c.qualified) ∧ base.Apart
  | enumeration e => ∀ c ∈ builtIn, (enumeration e).qualified ≠ c.qualified
  | _ => True

lemma root_root (c : Class) : c.root.root = c.root := by
  induction c with
  | derived _ _ base ih => exact ih
  | _ => rfl

lemma isEnum_root (c : Class) : c.root.isEnum = c.isEnum := by
  induction c with
  | derived _ _ base ih => exact ih
  | _ => rfl

lemma Apart.root {c : Class} (h : c.Apart) : c.root.Apart := by
  induction c with
  | derived _ _ base ih => exact ih h.2
  | _ => exact h

lemma root_ne_derived (c : Class) (module name : String) (base : Class) :
    c.root ≠ derived module name base := by
  induction c with
  | derived _ _ _ ih => exact ih
  | _ => exact fun h => nomatch h

lemma ancestors_builtIn : ∀ c ∈ builtIn, ∀ d ∈ c.ancestors, d ∈ builtIn := by
  simp [builtIn, ancestors]

lemma root_builtIn {c : Class} (h : ∀ e, c.root ≠ enumeration e) : c.root ∈ builtIn := by
  induction c with
  | derived _ _ base ih => exact ih h
  | enumeration e => exact absurd rfl (h e)
  | _ => simp [root, builtIn]

end Class

namespace Value

def cls : Value → Class
  | text _ => .text
  | boolean _ => .boolean
  | integer _ => .integer
  | real _ => .real
  | decimal _ => .decimal
  | path _ => .path
  | duration _ => .duration
  | member e _ => .enumeration e
  | collection c _ => c
  | mapping frozen _ => if frozen then .object else .mapping

def isInstance (v : Value) (c : Class) : Bool := (v.cls :: v.cls.ancestors).any (·.same c)

lemma isInstance_cls (v : Value) : v.isInstance v.cls = true := by
  simp [isInstance, Class.same]

lemma isInstance_of_builtIn {v : Value} {c : Class} (hv : v.cls ∈ Class.builtIn)
    (hc : ∀ d ∈ Class.builtIn, c.qualified ≠ d.qualified) : v.isInstance c = false := by
  rw [isInstance, List.any_eq_false]
  intro d hd
  have hmem : d ∈ Class.builtIn := by
    rw [List.mem_cons] at hd
    obtain rfl | hd := hd
    · exact hv
    · exact Class.ancestors_builtIn _ hv d hd
  simpa [Class.same] using (hc d hmem).symm

def isContainer : Value → Bool
  | collection .. | mapping .. => true
  | _ => false

structure OfClass (v : Value) (c : Class) : Prop where
  cls : v.cls = c
  scalar : v.isContainer = false

end Value

namespace Scalar

variable {raw : String} {v : Value}

lemma readBoolean_ofClass (h : readBoolean raw = .ok (some v)) : v.OfClass .boolean := by
  unfold readBoolean at h
  grind [Value.cls, Value.isContainer, Value.OfClass]

lemma readInteger_ofClass (h : readInteger raw = .ok (some v)) : v.OfClass .integer := by
  unfold readInteger at h
  grind [Value.cls, Value.isContainer, Value.OfClass]

lemma readReal_ofClass (h : readReal raw = .ok (some v)) : v.OfClass .real := by
  unfold readReal at h
  grind [Value.cls, Value.isContainer, Value.OfClass]

lemma readDecimal_ofClass (h : readDecimal raw = .ok (some v)) : v.OfClass .decimal := by
  rw [readDecimal, Except.ok.injEq, Option.map_eq_some_iff] at h
  obtain ⟨_, -, rfl⟩ := h
  exact ⟨rfl, rfl⟩

lemma readPath_ofClass {homes : Path.Homes} (h : readPath homes raw = .ok (some v)) :
    v.OfClass .path := by
  unfold readPath at h
  grind [Value.cls, Value.isContainer, Value.OfClass]

lemma readDuration_ofClass (h : readDuration raw = .ok (some v)) : v.OfClass .duration := by
  unfold readDuration at h
  grind [Value.cls, Value.isContainer, Value.OfClass, Option.map_eq_some_iff]

lemma readEnum_ofClass {c : Class} (h : readEnum c raw = .ok (some v)) :
    v.OfClass c ∧ c.root = c := by
  unfold readEnum at h
  grind [Value.cls, Value.isContainer, Value.OfClass, Class.root, Option.map_eq_some_iff]

end Scalar

def Account.Satisfies (P : Value → Prop) (account : Account) : Prop :=
  ∀ v, account.value = some v → P v

lemma Account.satisfies_none {P : Value → Prop} {formats : List String} :
    Account.Satisfies P ⟨formats, none⟩ := by
  intro v hv
  cases hv

def Promises (x : Note σ Account) (P : Value → Prop) : Prop :=
  Ensures (fun _ => True) x (Account.Satisfies P)

namespace Promises

variable {x : Note σ Account} {P Q : Value → Prop}

lemma mono (hx : Promises x P) (h : ∀ v, P v → Q v) : Promises x Q :=
  Ensures.mono hx fun _ haccount v hv => h v (haccount v hv)

lemma of_value (hx : Promises x P) {w : World σ} {v : Value} (hv : (x.run w).1.value = some v) :
    P v :=
  (hx w trivial).1 v hv

end Promises

namespace Converter

def Makes (c : Converter σ) (raw : String) (q : Request σ) (P : Value → Prop) : Prop :=
  Ensures (fun _ => True) (c.run raw q) fun result => ∀ v, result.outcome = .ok (some v) → P v

variable {raw : String} {q : Request σ} {P Q : Value → Prop}

lemma Makes.mono {c : Converter σ} (hc : c.Makes raw q P) (h : ∀ v, P v → Q v) : c.Makes raw q Q :=
  Ensures.mono hc fun _ hresult v hv => h v (hresult v hv)

lemma satisfies_fault {formats : List String} {fault : Fault} :
    ∀ v, (Result.mk formats (.error fault)).outcome = .ok (some v) → P v := by
  intro v hv
  cases hv

lemma makes_pureRun {id : Nat} {name format : String} {read : String → Target → Outcome}
    (h : ∀ v, read raw q.target = .ok (some v) → P v) :
    (⟨id, name, format, pureRun read⟩ : Converter σ).Makes raw q P := Ensures.pure h

lemma makes_boolean (id : Nat) : (boolean id).Makes raw q fun v => v.OfClass .boolean :=
  makes_pureRun fun _ => Scalar.readBoolean_ofClass

lemma makes_integer (id : Nat) : (integer id).Makes raw q fun v => v.OfClass .integer :=
  makes_pureRun fun _ => Scalar.readInteger_ofClass

lemma makes_real (id : Nat) : (real id).Makes raw q fun v => v.OfClass .real :=
  makes_pureRun fun _ => Scalar.readReal_ofClass

lemma makes_decimal (id : Nat) : (decimal id).Makes raw q fun v => v.OfClass .decimal :=
  makes_pureRun fun _ => Scalar.readDecimal_ofClass

lemma makes_path (homes : Path.Homes) (id : Nat) :
    (path homes id).Makes raw q fun v => v.OfClass .path :=
  makes_pureRun fun _ => Scalar.readPath_ofClass

lemma makes_duration (id : Nat) : (duration id).Makes raw q fun v => v.OfClass .duration :=
  makes_pureRun fun _ => Scalar.readDuration_ofClass

lemma makes_enum (id : Nat) :
    (enum id).Makes raw q fun v => v.OfClass q.target.cls ∧ q.target.cls.root = q.target.cls :=
  makes_pureRun fun _ h => Scalar.readEnum_ofClass h

lemma tryAll_makes {chain : List (Converter σ)} (h : ∀ c ∈ chain, c.Makes raw q P)
    (formats : List String) : Promises (tryAll raw q formats chain) P := by
  induction chain generalizing formats with
  | nil =>
    rw [tryAll]
    exact Ensures.bind (Q := fun _ => True) (fun _ _ => ⟨trivial, trivial⟩) fun _ _ =>
      Ensures.pure Account.satisfies_none
  | cons c rest ih =>
    rw [List.forall_mem_cons] at h
    rw [tryAll]
    refine Ensures.bind h.1 fun result hresult => ?_
    cases houtcome : result.outcome with
    | ok value =>
      cases value with
      | none => exact ih h.2 _
      | some v =>
        refine Ensures.pure fun u hu => ?_
        cases hu
        exact hresult v houtcome
    | error fault =>
      exact Ensures.bind (Q := fun _ => True) (fun _ _ => ⟨trivial, trivial⟩) fun _ _ => ih h.2 _

end Converter

namespace Registry

lemma servants_derived (module name : String) (base : Class) :
    servants (.derived module name base) = .derived module name base :: servants base := by
  rw [servants, servants]
  change _ :: (if base.isEnum then (base :: base.ancestors).filter Class.isEnum else _) = _
  cases h : base.isEnum with
  | true => rw [if_pos rfl, if_pos rfl, List.filter_cons_of_pos h]
  | false => rfl

lemma convertersFor_of_servants {r : Registry σ} {c d : Class} (h : r.chain c = [])
    (hservants : servants c = c :: servants d) : r.convertersFor c = r.convertersFor d := by
  rw [convertersFor, hservants, List.map_cons, h, List.find?_cons_of_neg (by simp)]
  rfl

variable (runtime : Runtime)

lemma standard_chain_eq_nil {c : Class}
    (h : ∀ d ∈ Class.builtIn, c.qualified ≠ d.qualified) : (standard runtime : Registry σ).chain c = [] := by
  simp only [Class.builtIn, List.forall_mem_cons] at h
  simp [standard, chain_register, chain_empty, h]

lemma standard_root {c : Class} (h : c.Apart) :
    (standard runtime : Registry σ).convertersFor c = (standard runtime).convertersFor c.root := by
  induction c with
  | derived module name base ih =>
    -- Nothing is registered for the class itself, and behind it come its base and the ancestors of that.
    rw [convertersFor_of_servants (standard_chain_eq_nil runtime h.1) (servants_derived module name base),
      ih h.2]
    rfl
  | _ => rfl

lemma standard_serves {c : Class} {converter : Converter σ}
    (h : (c, converter) ∈ [(Class.boolean, .boolean 0), (.integer, .integer 1), (.real, .real 2),
      (.decimal, .decimal 3), (.path, .path runtime.homes 4), (.enum, .enum 5), (.duration, .duration 6),
      (.mapping, .mapping 8)]) : (standard runtime).chain c = [converter] := by
  simp only [List.mem_cons, List.not_mem_nil, Prod.mk.injEq, or_false] at h
  obtain ⟨rfl, rfl⟩ | ⟨rfl, rfl⟩ | ⟨rfl, rfl⟩ | ⟨rfl, rfl⟩ | ⟨rfl, rfl⟩ | ⟨rfl, rfl⟩ | ⟨rfl, rfl⟩ |
    ⟨rfl, rfl⟩ := h
  all_goals simp [standard, chain_register, chain_empty, Class.qualified]

lemma standard_enum {c : Class} (henum : c.isEnum = true) (hapart : c.Apart) :
    (standard runtime : Registry σ).convertersFor c = [.enum 5] := by
  have hnil : (standard runtime : Registry σ).chain .integerEnum = [] := by
    simp [standard, chain_register, chain_empty, Class.qualified]
  have hchain : (standard runtime : Registry σ).chain .enum = [.enum 5] :=
    standard_serves runtime (by simp)
  rw [standard_root runtime hapart, convertersFor]
  have hroot := hapart.root
  rw [← c.isEnum_root] at henum
  cases hc : c.root with
  | enum => simp [servants, Class.isEnum, Class.ancestors, hchain]
  | integerEnum => simp [servants, Class.isEnum, Class.ancestors, hchain, hnil]
  | enumeration e =>
    rw [hc] at hroot
    have hown := standard_chain_eq_nil (σ := σ) runtime hroot
    cases hmixin : e.mixin with
    | none | integer | text =>
      simp [servants, Class.isEnum, Class.ancestors, hchain, hnil, hown, hmixin]
  | derived module name base => exact absurd hc (c.root_ne_derived module name base)
  | _ =>
    rw [hc] at henum
    cases henum

lemma standard_unserved {c : Class} (h : c = .object ∨ c = .any ∨ c = .text ∨ c = .complex) :
    (standard runtime : Registry σ).convertersFor c = [] := by
  obtain rfl | rfl | rfl | rfl := h
  all_goals
    simp [convertersFor, servants, Class.isEnum, Class.ancestors, standard, chain_register,
      chain_empty, Class.qualified]

section Makes

variable {q : Request σ}

lemma makes_of_chain {b : Class} {c : Converter σ} {raw : String}
    (hmakes : c.Makes raw q fun v => v.OfClass b) (h : (standard runtime).chain b = [c]) :
    ∀ converter ∈ (standard runtime).convertersFor b, converter.Makes raw q fun v => v.OfClass b := by
  rw [convertersFor_of_chain h, List.forall_mem_singleton]
  exact hmakes

lemma standard_makes_builtIn {b : Class} (hb : b ∈ Class.builtIn) (hscalar : b.isScalar = true)
    (henum : b.isEnum = false) (raw : String) :
    ∀ converter ∈ (standard runtime : Registry σ).convertersFor b,
      converter.Makes raw q fun v => v.OfClass b := by
  cases b with
  | boolean => exact makes_of_chain runtime (Converter.makes_boolean 0) (standard_serves runtime (by simp))
  | integer => exact makes_of_chain runtime (Converter.makes_integer 1) (standard_serves runtime (by simp))
  | real => exact makes_of_chain runtime (Converter.makes_real 2) (standard_serves runtime (by simp))
  | decimal => exact makes_of_chain runtime (Converter.makes_decimal 3) (standard_serves runtime (by simp))
  | path => exact makes_of_chain runtime (Converter.makes_path runtime.homes 4) (standard_serves runtime (by simp))
  | duration => exact makes_of_chain runtime (Converter.makes_duration 6) (standard_serves runtime (by simp))
  | object | any | text | complex =>
    rw [standard_unserved runtime (by simp)]
    exact List.forall_mem_nil _
  | list | tuple | set | frozenset | mapping => cases hscalar
  | enum | integerEnum => cases henum
  | enumeration _ | derived _ _ _ => simp [Class.builtIn] at hb

lemma standard_makes {c : Class} (hscalar : c.isScalar = true) (hapart : c.Apart) (raw : String)
    (hq : q.target.cls = c) :
    ∀ converter ∈ (standard runtime : Registry σ).convertersFor c,
      converter.Makes raw q fun v => v.OfClass c.root ∧ (c.isEnum = true → c.root = c) := by
  cases henum : c.isEnum with
  | true =>
    rw [standard_enum runtime henum hapart, List.forall_mem_singleton]
    refine (Converter.makes_enum 5).mono fun v ⟨hclass, hroot⟩ => ?_
    rw [hq] at hclass hroot
    exact ⟨hroot.symm ▸ hclass, fun _ => hroot⟩
  | false =>
    rw [← c.isEnum_root] at henum
    have hbuiltIn : c.root ∈ Class.builtIn := Class.root_builtIn fun e he => by
      rw [he] at henum
      cases henum
    have hroot : c.root.isScalar = true := by
      rwa [Class.isScalar, c.root_root]
    rw [standard_root runtime hapart]
    have hmakes := standard_makes_builtIn runtime (q := q) hbuiltIn hroot henum raw
    exact fun converter hconverter =>
      (hmakes converter hconverter).mono fun v hclass => ⟨hclass, fun h => nomatch h⟩

end Makes

lemma convert_makes (r : Registry σ) (s : Subject) (linked : Bool) {t : Target} {raw : String}
    {P : Value → Prop} (htext : t.isText = true → P (.text raw))
    (h : ∀ c ∈ r.convertersFor t.cls,
      c.Makes raw (request s linked t (r.convertEach s linked t.args)) P) :
    Promises (r.convert s linked t raw) P := by
  cases hcase : t.isText with
  | true =>
    have hv := htext hcase
    unfold Target.isText at hcase
    split at hcase
    · rw [convert]
      exact Ensures.pure fun v h => Option.some.inj h ▸ hv
    · cases hcase
  | false =>
    rw [convert_of_not_text r s linked hcase]
    exact Converter.tryAll_makes h []

lemma convert_ofClass {s : Subject} {linked : Bool} {c : Class} (hscalar : c.isScalar = true)
    (hapart : c.Apart) {raw : String} {w : World σ} {v : Value}
    (hvalue : (((standard runtime).convert s linked (.bare c) raw).run w).1.value = some v) :
    v.OfClass c.root ∧ (c.isEnum = true → c.root = c) := by
  refine (convert_makes (standard runtime) s linked (t := .bare c) (P := fun v => v.OfClass c.root ∧
    (c.isEnum = true → c.root = c)) (fun htext => ?_)
    (standard_makes runtime hscalar hapart raw rfl)).of_value hvalue
  cases c with
  | text => exact ⟨⟨rfl, rfl⟩, fun _ => rfl⟩
  | _ => cases htext

/-- A scalar is of the class behind the user-defined ones. It is of the class that was asked for if and
only if that class is built in or an enumeration. -/
theorem scalar_instance_iff (s : Subject) (linked : Bool) {c : Class} (hscalar : c.isScalar = true)
    (hapart : c.Apart) (raw : String) (w : World σ) {v : Value}
    (hvalue : (((standard runtime).convert s linked (.bare c) raw).run w).1.value = some v) :
    v.isInstance c.root = true ∧ (v.isInstance c = true ↔ c.root = c) := by
  obtain ⟨hclass, henum⟩ := convert_ofClass runtime hscalar hapart hvalue
  have hroot : v.isInstance c.root = true := hclass.cls ▸ v.isInstance_cls
  refine ⟨hroot, fun hinstance => ?_, fun h => h ▸ hroot⟩
  by_contra hne
  -- The class is user-defined and no enumeration, so the value and its ancestors are built in.
  have hbuiltIn : v.cls ∈ Class.builtIn := by
    rw [hclass.cls]
    refine Class.root_builtIn fun e he => hne (henum ?_)
    rw [← c.isEnum_root, he]
    rfl
  have hc : ∀ d ∈ Class.builtIn, c.qualified ≠ d.qualified := by
    cases c with
    | derived module name base => exact hapart.1
    | _ => exact absurd rfl hne
  rw [Value.isInstance_of_builtIn hbuiltIn hc] at hinstance
  cases hinstance

def priority : Enumeration :=
  ⟨"demo", "Priority", .integer, [("LOW", .integer 1), ("HIGH", .integer 2)]⟩

def limit : Subject := ⟨"limit", none, none, .empty⟩

theorem scalar_instance_priority :
    let v := Value.member priority ⟨"HIGH", .integer 2⟩
    (((standard .silent).convert limit true (.bare (.enumeration priority)) " high").run
        (.initial .warning ())).1.value = some v ∧
      v.isInstance (.enumeration priority) = true := by
  have hvalue : (((standard .silent).convert limit true
      (.bare (.enumeration priority)) " high").run (.initial .warning ())).1.value =
        some (.member priority ⟨"HIGH", .integer 2⟩) := rfl
  have hapart : (Class.enumeration priority).Apart := by
    unfold Class.Apart
    decide +kernel
  exact ⟨hvalue, (scalar_instance_iff _ limit true rfl hapart " high" _ hvalue).2.2 rfl⟩

def myInt : Class := .derived "demo" "MyInt" .integer

theorem scalar_not_instance_myInt :
    myInt.isScalar = true ∧ myInt.Apart ∧
      ∃ v, (((standard .silent).convert limit true (.bare myInt) "5").run
          (.initial .warning ())).1.value = some v ∧ v.isInstance myInt = false := by
  refine ⟨rfl, ⟨?_, trivial⟩, .integer 5, rfl, ?_⟩
  · decide +kernel
  · decide +kernel

end Registry

end LayeredConfig.Conversion
