import LayeredConfig.Config
import LayeredConfig.Proofs.Instances

/-! Converters tried in turn, whatever they return and however they fail. A required value and an
optional one come from the same attempts, so they differ only where there is no value: there the
one fails with the formats of these attempts and the other is the default. -/

namespace LayeredConfig

variable {σ : Type}

def World.noted (w : World σ) (severity : Severity) (name : String) (source key : Option String)
    (more : List (String × Data)) : World σ :=
  { w with journal := w.journal.record severity name (Journal.about source key more) }

namespace Conversion

structure Attempt (σ : Type) where
  converter : Converter σ
  result : Result

def Attempt.formats (a : Attempt σ) : List String := a.converter.advertised :: a.result.formats

namespace Converter

def faulted (c : Converter σ) (q : Request σ) (fault : Fault) (w : World σ) : World σ :=
  w.noted .debug "converter_failed" none (some q.subject.key)
    [("converter", .text c.name), ("error", .text fault.message)]

/-- The converters of a chain tried in turn, up to the first value. -/
inductive Tries (raw : String) (q : Request σ) :
    List (Converter σ) → World σ → List (Attempt σ) → Option Value → World σ → Prop
  | exhausted (w : World σ) : Tries raw q [] w [] none w
  | found {c rest w w'} {formats : List String} {v : Value}
      (h : (c.run raw q).run w = (⟨formats, .ok (some v)⟩, w')) :
      Tries raw q (c :: rest) w [⟨c, ⟨formats, .ok (some v)⟩⟩] (some v) w'
  | nothing {c rest w w' tried value w''} {formats : List String}
      (h : (c.run raw q).run w = (⟨formats, .ok none⟩, w'))
      (next : Tries raw q rest w' tried value w'') :
      Tries raw q (c :: rest) w (⟨c, ⟨formats, .ok none⟩⟩ :: tried) value w''
  | failed {c rest w w' tried value w''} {formats : List String} {fault : Fault}
      (h : (c.run raw q).run w = (⟨formats, .error fault⟩, w'))
      (next : Tries raw q rest (c.faulted q fault w') tried value w'') :
      Tries raw q (c :: rest) w (⟨c, ⟨formats, .error fault⟩⟩ :: tried) value w''

variable {raw : String} {q : Request σ} {chain : List (Converter σ)} {w w' : World σ}
  {tried : List (Attempt σ)} {value : Option Value}

lemma exists_tries (raw : String) (q : Request σ) (chain : List (Converter σ)) (w : World σ) :
    ∃ tried value w', Tries raw q chain w tried value w' := by
  -- A fault moves the world on by its report, so the rest is tried from another world.
  induction chain generalizing w with
  | nil => exact ⟨[], none, w, .exhausted w⟩
  | cons c rest ih =>
    match hrun : (c.run raw q).run w with
    | (⟨formats, .ok (some v)⟩, w₁) => exact ⟨_, _, _, .found hrun⟩
    | (⟨formats, .ok none⟩, w₁) =>
      obtain ⟨tried, value, w₂, h⟩ := ih w₁
      exact ⟨_, _, _, .nothing hrun h⟩
    | (⟨formats, .error fault⟩, w₁) =>
      obtain ⟨tried, value, w₂, h⟩ := ih (c.faulted q fault w₁)
      exact ⟨_, _, _, .failed hrun h⟩

def concluded (q : Request σ) (formats : List String) (value : Option Value) (w : World σ) :
    World σ :=
  if value.isSome then w
  else w.noted .debug "conversion_exhausted" none (some q.subject.key)
    [("target", .text q.target.label), ("formats", Journal.strings formats)]

lemma Tries.run (h : Tries raw q chain w tried value w') (before : List String) :
    let formats := before ++ tried.flatMap Attempt.formats
    (tryAll raw q before chain).run w = (⟨formats, value⟩, concluded q formats value w') := by
  induction h generalizing before with
  | exhausted w =>
    rw [List.flatMap_nil, List.append_nil]
    rfl
  | found h =>
    rw [tryAll, run_bind_of h, List.flatMap_singleton]
    rfl
  | @nothing c rest w w' tried value w'' formats h _ ih =>
    rw [tryAll, run_bind_of h, List.flatMap_cons, ← List.append_assoc]
    exact ih (before ++ c.advertised :: formats)
  | @failed c rest w w' tried value w'' formats fault h _ ih =>
    rw [tryAll, run_bind_of h, List.flatMap_cons, ← List.append_assoc]
    exact ih (before ++ c.advertised :: formats)

end Converter

namespace Registry

def asked (r : Registry σ) (s : Subject) (t : Target) : Request σ :=
  request s true t (r.convertEach s true t.args)

lemma convert_of_not_text (r : Registry σ) (s : Subject) (linked : Bool) {t : Target}
    (h : t.isText = false) (raw : String) :
    r.convert s linked t raw = Converter.tryAll raw (request s linked t (r.convertEach s linked t.args))
      [] (r.convertersFor t.cls) := by
  cases t with
  | bare c =>
    have hc : c ≠ .text := by
      rintro rfl
      cases h
    have hitems : r.convertEach s linked (Target.bare c).args = [] := rfl
    rw [convert, hitems]
    · rfl
    · exact hc
  | generic c ts =>
    rw [convert]
    rfl
  | ellipsis =>
    rw [convert]
    rfl

lemma convert_eq_tryAll (r : Registry σ) (s : Subject) {t : Target} (h : t.isText = false)
    (raw : String) :
    r.convert s true t raw = Converter.tryAll raw (r.asked s t) [] (r.convertersFor t.cls) :=
  r.convert_of_not_text s true h raw

end Registry

end Conversion

namespace Config

open Conversion

inductive Converts (c : Config σ) (e : Entry) (text : String) (target : Target)
    (annotated : Option String) (w : World σ) : Account → World σ → Prop
  | text (h : target.isText = true) : Converts c e text target annotated w ⟨[], some (.text text)⟩ w
  | unequipped (h : target.isText = false) (hr : c.converters = none) :
      Converts c e text target annotated w ⟨[], none⟩ w
  | tried {r : Registry σ} {tried : List (Attempt σ)} {value : Option Value} {w' : World σ}
      (h : target.isText = false) (hr : c.converters = some r) {q : Request σ}
      (hq : q = r.asked ⟨e.key, some c.entries, annotated, e.metadata⟩ target)
      (tries : Converter.Tries text q (r.convertersFor target.cls) w tried value w') :
      Converts c e text target annotated w ⟨tried.flatMap Attempt.formats, value⟩
        (Converter.concluded q (tried.flatMap Attempt.formats) value w')

variable {c : Config σ} {e : Entry} {text : String} {target : Target} {annotated : Option String}
  {w w' : World σ} {account : Account}

lemma exists_converts (c : Config σ) (e : Entry) (text : String) (target : Target)
    (annotated : Option String) (w : World σ) :
    ∃ account w', c.Converts e text target annotated w account w' := by
  cases htext : target.isText with
  | true => exact ⟨_, _, .text htext⟩
  | false =>
    cases hr : c.converters with
    | none => exact ⟨_, _, .unequipped htext hr⟩
    | some r =>
      obtain ⟨tried, value, w', htries⟩ := Converter.exists_tries text
        (r.asked ⟨e.key, some c.entries, annotated, e.metadata⟩ target)
        (r.convertersFor target.cls) w
      exact ⟨_, _, .tried htext hr rfl htries⟩

lemma Converts.run (h : c.Converts e text target annotated w account w') :
    (c.convert e text target annotated).run w = (account, w') := by
  cases h with
  | text h => rw [convert, if_pos h]; rfl
  | unequipped h hr => rw [convert, if_neg (by simp [h]), hr]; rfl
  | tried h hr hq htries =>
    rw [convert, if_neg (by simp [h]), hr]
    dsimp only
    rw [Registry.convert_eq_tryAll _ _ h, ← hq]
    exact htries.run []

lemma getAs_of_none {key : String} (h : c.get? key = none) (default' : Option Value) :
    c.getAs key target default' annotated = pure default' := by
  rw [get?, Option.bind_eq_none_iff] at h
  rw [getAs]
  cases he : c.entry? key with
  | none => rfl
  | some e => simp only [h e he]

lemma require_of_none {key : String} (h : c.get? key = none) :
    c.require key target annotated = throw (.missingKey key) := by
  rw [get?, Option.bind_eq_none_iff] at h
  rw [require]
  cases he : c.entry? key with
  | none => rfl
  | some e => simp only [h e he]

section Found

variable {key : String} (he : c.entry? key = some e) (hvalue : e.value = some text)
  (h : c.Converts e text target annotated w account w')
include he hvalue h

lemma Converts.getAs_run (default' : Option Value) :
    (c.getAs key target default' annotated).run w = (account.value.or default', w') := by
  rw [getAs, he]
  simp only [hvalue]
  rw [run_bind_of h.run]
  rfl

lemma Converts.require_run :
    (c.require key target annotated).run.run w =
      (account.value.elim (.error (.unconvertible key target account.formats)) .ok, w') := by
  have hlift : (ExceptT.lift (c.convert e text target annotated) : Call σ Account).run.run w =
      (.ok account, w') := by
    rw [ExceptT.run_lift, StateT.run_map, h.run]
    rfl
  rw [require, he]
  simp only [hvalue]
  rw [ExceptT.run_bind]
  refine (run_bind_of hlift).trans ?_
  rcases account with ⟨formats, _ | v⟩
  · rfl
  · rfl

end Found

/-- A required value and an optional one are the same, from the same attempts. Where there is none,
the key is missing or the formats of the attempts are named, and the default stands in. -/
theorem require_getAs (c : Config σ) (key : String) (target : Target) (default' : Option Value)
    (annotated : Option String) (w : World σ) :
    (c.get? key = none ∧
      (c.require key target annotated).run.run w = (.error (.missingKey key), w) ∧
      (c.getAs key target default' annotated).run w = (default', w)) ∨
    ∃ e text account w', c.entry? key = some e ∧ e.value = some text ∧
      c.Converts e text target annotated w account w' ∧
      ((∃ v, account.value = some v ∧
          (c.require key target annotated).run.run w = (.ok v, w') ∧
          (c.getAs key target default' annotated).run w = (some v, w')) ∨
        account.value = none ∧
          (c.require key target annotated).run.run w =
            (.error (.unconvertible key target account.formats), w') ∧
          (c.getAs key target default' annotated).run w = (default', w')) := by
  cases hget : c.get? key with
  | none =>
    refine .inl ⟨rfl, ?_, ?_⟩
    · rw [require_of_none hget]
      rfl
    · rw [getAs_of_none hget]
      rfl
  | some text =>
    obtain ⟨e, he, hvalue⟩ := Option.bind_eq_some_iff.1 hget
    obtain ⟨account, w', hconverts⟩ := c.exists_converts e text target annotated w
    refine .inr ⟨e, text, account, w', he, hvalue, hconverts, ?_⟩
    rw [hconverts.require_run he hvalue, hconverts.getAs_run he hvalue]
    cases account.value with
    | none => exact .inr ⟨rfl, rfl, rfl⟩
    | some v => exact .inl ⟨v, rfl, rfl, rfl⟩

example (w : World Unit) :
    let c : Config Unit := {
      entries := .ofList [("debug", ⟨"debug", some "off", "env", .empty, by decide⟩)]
      converters := some (.standard .silent) }
    (c.getAs "debug" (.bare .boolean) (some (.boolean true)) none).run w =
      (some (.boolean false), w) := by
  rfl

end Config

end LayeredConfig
