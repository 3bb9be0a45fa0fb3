import DynamicDns.Proofs.Kinds

/-!
# Errors in stages

An error may be wrapped in any number of stages, and each of its views looks through them. The kind is that of
the error inside. The message is that of the error inside, after the stages, the outermost first. The sources
begin with one message for each stage, in which the stages up to this one are left out, and go on with the
sources of the error inside. Every error is in stages in exactly one way, so this tells how the views of any
error come from those of an error in no stage.
-/

namespace DynamicDns.Error

variable {e : Error}

/-! ## Stages outside in -/

/-- `within` has the innermost stage first, and the views of an error meet the outermost first. -/
theorem within_eq_foldr (e : Error) (stages : List String) :
    e.within stages = stages.reverse.foldr inStage e := by
  induction stages generalizing e with
  | nil => rfl
  | cons stage stages ih =>
    rw [within, ih, List.reverse_cons, List.foldr_append]
    rfl

theorem within_concat (e : Error) (stages : List String) (stage : String) :
    e.within (stages ++ [stage]) = inStage stage (e.within stages) := by
  rw [within_eq_foldr, within_eq_foldr, List.reverse_concat, List.foldr_cons]

/-! ## Messages and sources -/

/-- A message after stages, each with a colon behind it. -/
def staged (stages : List String) (message : String) : String :=
  String.join (stages.map (· ++ ": ")) ++ message

theorem staged_nil (message : String) : staged [] message = message := by
  rw [staged, List.map_nil, String.join_nil, String.empty_append]

theorem staged_cons (stage : String) (stages : List String) (message : String) :
    staged (stage :: stages) message = stage ++ ": " ++ staged stages message := by
  rw [staged, staged, List.map_cons, String.join_cons, String.append_assoc]

theorem message_foldr_inStage (e : Error) (outer : List String) :
    (outer.foldr inStage e).message = staged outer e.message := by
  induction outer with
  | nil => rw [staged_nil, List.foldr_nil]
  | cons stage inner ih =>
    calc ((stage :: inner).foldr inStage e).message
      _ = stage ++ ": " ++ (inner.foldr inStage e).message := rfl
      _ = stage ++ ": " ++ staged inner e.message := by rw [ih]
      _ = staged (stage :: inner) e.message := (staged_cons stage inner e.message).symm

/-- The sources of an error in stages. The first of them is the message without the outermost stage, for the
message itself is not among the sources. -/
theorem sources_foldr_inStage (causes : TransportFailure → List String) (e : Error)
    (outer : List String) :
    (outer.foldr inStage e).sources causes =
      (List.range outer.length).map (fun k ↦ staged (outer.drop (k + 1)) e.message) ++
        e.sources causes := by
  induction outer with
  | nil => rfl
  | cons stage inner ih =>
    have hrange : (List.range (stage :: inner).length).map
          (fun k ↦ staged ((stage :: inner).drop (k + 1)) e.message) =
        staged inner e.message ::
          (List.range inner.length).map fun k ↦ staged (inner.drop (k + 1)) e.message := by
      rw [List.length_cons, List.range_succ_eq_map, List.map_cons, List.map_map]
      rfl
    calc ((stage :: inner).foldr inStage e).sources causes
      _ = (inner.foldr inStage e).message :: (inner.foldr inStage e).sources causes := rfl
      _ = staged inner e.message ::
          ((List.range inner.length).map (fun k ↦ staged (inner.drop (k + 1)) e.message) ++
            e.sources causes) := by rw [message_foldr_inStage, ih]
      _ = _ := by rw [hrange, List.cons_append]

/-- Whatever stages an error is wrapped in, the first of them the innermost, its kind stays, and with it
whether the configuration is at fault. The message comes after all the stages, the outermost first. The sources
begin with one message for each stage, the `k`-th of which comes after all but the `k` outermost stages, and go
on with the sources of the error itself. -/
theorem errors_are_seen_through_stages (causes : TransportFailure → List String) (e : Error)
    (stages : List String) :
    let wrapped := e.within stages
    wrapped.kind = e.kind ∧
    wrapped.kind.isConfiguration = e.kind.isConfiguration ∧
    wrapped.message = staged stages.reverse e.message ∧
    wrapped.sources causes =
      (List.range stages.length).map
        (fun k ↦ staged (stages.reverse.drop (k + 1)) e.message) ++ e.sources causes := by
  intro wrapped
  have hkind : wrapped.kind = e.kind := kind_within e stages
  have houter : wrapped = stages.reverse.foldr inStage e := within_eq_foldr e stages
  refine ⟨hkind, congrArg ErrorKind.isConfiguration hkind, ?_, ?_⟩
  · rw [houter, message_foldr_inStage]
  · rw [houter, sources_foldr_inStage, List.length_reverse]

example :
    let causes : TransportFailure → List String := fun _ ↦ ["connection refused"]
    ((transport .sending).within ["looking up", "updating"]).sources causes =
      ["looking up: error sending request", "error sending request", "connection refused"] := rfl

/-! ## The error inside -/

/-- An error in no stage. -/
def IsBare (e : Error) : Prop := ∀ stage source, e ≠ inStage stage source

/-- The error in all the stages. -/
def innermost : Error → Error
  | inStage _ source => source.innermost
  | e => e

/-- The stages of an error, of which the first is the innermost. -/
def stages : Error → List String
  | inStage stage source => source.stages ++ [stage]
  | _ => []

theorem isBare_innermost (e : Error) : e.innermost.IsBare := by
  induction e with
  | inStage stage source ih => exact ih
  | _ => exact nofun

theorem within_stages (e : Error) : e.innermost.within e.stages = e := by
  induction e with
  | inStage stage source ih => rw [innermost, stages, within_concat, ih]
  | _ => rfl

theorem IsBare.innermost_eq (h : e.IsBare) : e.innermost = e := by
  cases e with
  | inStage stage source => exact absurd rfl (h stage source)
  | _ => rfl

theorem IsBare.stages_eq_nil (h : e.IsBare) : e.stages = [] := by
  cases e with
  | inStage stage source => exact absurd rfl (h stage source)
  | _ => rfl

theorem innermost_within (e : Error) (outer : List String) :
    (e.within outer).innermost = e.innermost := by
  induction outer generalizing e with
  | nil => rfl
  | cons stage outer ih => rw [within, ih, innermost]

theorem stages_within (e : Error) (outer : List String) :
    (e.within outer).stages = e.stages ++ outer := by
  induction outer generalizing e with
  | nil => rw [within, List.append_nil]
  | cons stage outer ih => rw [within, ih, stages, ← List.append_cons]

/-- Every error is an error in no stage that is wrapped in stages, and in one way only. -/
theorem existsUnique_within (e : Error) :
    ∃! parts : Error × List String, parts.1.IsBare ∧ parts.1.within parts.2 = e := by
  refine ⟨(e.innermost, e.stages), ⟨isBare_innermost e, within_stages e⟩, ?_⟩
  rintro ⟨inside, outer⟩ ⟨hbare, rfl⟩
  rw [innermost_within, stages_within, hbare.innermost_eq, hbare.stages_eq_nil, List.nil_append]

end DynamicDns.Error
