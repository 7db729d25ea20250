import Mathlib.Data.List.Basic
import SurfaceDrift.Guard

/-!
# The record follows the calls that run

At any moment some guarded calls are running, each inside the one before. `Call.Ends` tells how
a call ends by these names alone, the innermost first, without a record: a body goes through
its inner calls up to the first that propagates an error, then it ends by itself, and its panic
is put down to the innermost call that runs (`Ending.Gives`). It also lists what runs at every
moment at which a body looks: when it begins, and after each inner call, however that ended.

`Call.run_brackets` says that the guard keeps the record like this: a call ends in one way only,
its run ends in the same way, every look finds the innermost name, and afterwards the record is
what it was. The step is `guarded_eq`, for any body; the induction is on how the call ends.
-/

namespace SurfaceDrift

/-! ## One body -/

/-- However the body ends, the former name is on record again. -/
theorem guarded_eq {α : Type} (name : String) (body : Watched Failure α) (w : Watch) :
    guarded name body w =
      (contain name (body ⟨some name, w.log⟩).1, ⟨w.current, (body ⟨some name, w.log⟩).2.log⟩) :=
  rfl

/-! ## How calls end -/

/-- What an ending comes to outside of the call `name`, whose inner calls gave these replies. -/
inductive Ending.Gives (name : String) (replies : List Reply) :
    Ending → Except Error Reply → Prop where
  | answer (text : String) : Gives name replies (.answer text) (.ok (.answer text replies))
  | refuse (cause : Error) : Gives name replies (.refuse cause) (.error cause)
  | panic (words : String) :
      Gives name replies (.panic (.text words)) (.error (.execution (.panicked name words)))
  | wordlessPanic :
      Gives name replies (.panic .other) (.error (.execution (.panicked name "unknown panic")))

mutual

/-- While the calls `running` run, the innermost first, the call ends with the result, and the
moments list what runs whenever a body looks. -/
inductive Call.Ends : List String → Call → Except Error Reply → List (List String) → Prop where
  /-- The body goes through its inner calls and ends by itself. -/
  | itself {running : List String} {name : String} {propagates : Bool} {inner : List Call}
      {ending : Ending} {replies : List Reply} {result : Except Error Reply}
      {moments : List (List String)}
      (hinner : InnerEnd (name :: running) inner (.ok replies) moments)
      (hending : ending.Gives name replies result) :
      Call.Ends running (.mk name propagates inner ending) result ((name :: running) :: moments)
  /-- The error of an inner call ends the body. -/
  | handedOn {running : List String} {name : String} {propagates : Bool} {inner : List Call}
      {ending : Ending} {cause : Error} {moments : List (List String)}
      (hinner : InnerEnd (name :: running) inner (.error cause) moments) :
      Call.Ends running (.mk name propagates inner ending) (.error cause)
        ((name :: running) :: moments)

/-- The inner calls of the innermost call end with these replies, or with the error that one of
them propagates. -/
inductive InnerEnd :
    List String → List Call → Except Error (List Reply) → List (List String) → Prop where
  | nil {running : List String} : InnerEnd running [] (.ok []) []
  /-- The body goes on after an answer, and after an error that is not propagated. -/
  | goesOn {running : List String} {call : Call} {rest : List Call} {first : Except Error Reply}
      {result : Except Error (List Reply)} {moments later : List (List String)}
      (hcall : call.Ends running first moments)
      (hgoes : call.propagates = false ∨ ∃ reply, first = .ok reply)
      (hrest : InnerEnd running rest result later) :
      InnerEnd running (call :: rest) (result.map (Reply.of first :: ·))
        (moments ++ running :: later)
  | propagated {running : List String} {call : Call} {rest : List Call} {cause : Error}
      {moments : List (List String)} (hcall : call.Ends running (.error cause) moments)
      (hleaves : call.propagates = true) :
      InnerEnd running (call :: rest) (.error cause) (moments ++ [running])

end

/-! ## The run of a call -/

theorem Ending.gives_iff {name : String} {replies : List Reply} {ending : Ending}
    {result : Except Error Reply} :
    ending.Gives name replies result ↔ result = contain name (ending.result replies) := by
  constructor
  · rintro (_ | _ | _ | _) <;> rfl
  · rintro rfl
    rcases ending with text | cause | words | _
    · exact .answer text
    · exact .refuse cause
    · exact .panic words
    · exact .wordlessPanic

/-- The inner calls go on after an answer, and after an error that is not propagated. -/
theorem runInner_goesOn {call : Call} {rest : List Call} {w after : Watch}
    {first : Except Error Reply} (hcall : call.run w = (first, after))
    (hgoes : call.propagates = false ∨ ∃ reply, first = .ok reply) :
    runInner (call :: rest) w = ((runInner rest after.note).1.map (Reply.of first :: ·),
      (runInner rest after.note).2) := by
  rw [runInner, hcall]
  cases first with
  | error cause =>
    have hstays : call.propagates = false := hgoes.resolve_right fun ⟨_, h⟩ => by cases h
    rcases hrest : runInner rest after.note with ⟨_ | _, _⟩ <;>
      simp [hstays, hrest, Except.map, Reply.of]
  | ok reply =>
    rcases hrest : runInner rest after.note with ⟨_ | _, _⟩ <;>
      simp [hrest, Except.map, Reply.of]

theorem runInner_propagated {call : Call} {rest : List Call} {w after : Watch} {cause : Error}
    (hcall : call.run w = (.error cause, after)) (hleaves : call.propagates = true) :
    runInner (call :: rest) w = (.error cause, after.note) := by
  rw [runInner, hcall]
  simp [hleaves]

mutual

/-- The run of a call ends as the call does; every look finds the innermost name, and the
former name is on record again. -/
theorem Call.Ends.run_eq :
    ∀ {running : List String} {call : Call} {result : Except Error Reply}
      {moments : List (List String)}, call.Ends running result moments → ∀ w : Watch,
      call.run w = (result, ⟨w.current, w.log ++ moments.map List.head?⟩)
  | running, .mk name _ inner ending, _, _, .itself hinner hending, w => by
    have hbody := hinner.run_eq (w.log ++ [some name])
    rw [List.head?_cons] at hbody
    simp only [Call.run, guarded_eq, Watch.note, hbody, ← Ending.gives_iff.mp hending]
    simp
  | running, .mk name _ inner ending, _, _, .handedOn hinner, w => by
    have hbody := hinner.run_eq (w.log ++ [some name])
    rw [List.head?_cons] at hbody
    simp only [Call.run, guarded_eq, Watch.note, hbody]
    simp [contain]

/-- The inner calls of the innermost call leave its name on record. -/
theorem InnerEnd.run_eq :
    ∀ {running : List String} {inner : List Call} {result : Except Error (List Reply)}
      {moments : List (List String)}, InnerEnd running inner result moments →
      ∀ log : List (Option String), runInner inner ⟨running.head?, log⟩ =
        (result, ⟨running.head?, log ++ moments.map List.head?⟩)
  | _, _, _, _, .nil, log => by simp [runInner]
  | running, call :: rest, _, _, .goesOn hcall hgoes hrest, log => by
    rw [runInner_goesOn (hcall.run_eq _) hgoes, Watch.note, hrest.run_eq]
    simp
  | running, call :: rest, _, _, .propagated hcall hleaves, log => by
    rw [runInner_propagated (hcall.run_eq _) hleaves, Watch.note]
    simp

end

/-! ## One way to end -/

section

variable {running : List String} {name : String} {propagates : Bool} {inner : List Call}
  {ending : Ending} {call : Call} {rest : List Call} {moments : List (List String)}

theorem Call.ends_iff_of_handedOn {cause : Error}
    (hinner : ∀ result' moments', InnerEnd (name :: running) inner result' moments' ↔
      result' = .error cause ∧ moments' = moments)
    (result' : Except Error Reply) (moments' : List (List String)) :
    (Call.mk name propagates inner ending).Ends running result' moments' ↔
      result' = .error cause ∧ moments' = (name :: running) :: moments := by
  constructor
  · intro h
    cases h with
    | itself h _ => cases ((hinner _ _).mp h).1
    | handedOn h =>
      obtain ⟨hcause, rfl⟩ := (hinner _ _).mp h
      exact ⟨congrArg Except.error (Except.error.inj hcause), rfl⟩
  · rintro ⟨rfl, rfl⟩
    exact .handedOn ((hinner _ _).mpr ⟨rfl, rfl⟩)

theorem Call.ends_iff_of_itself {replies : List Reply}
    (hinner : ∀ result' moments', InnerEnd (name :: running) inner result' moments' ↔
      result' = .ok replies ∧ moments' = moments)
    (result' : Except Error Reply) (moments' : List (List String)) :
    (Call.mk name propagates inner ending).Ends running result' moments' ↔
      result' = contain name (ending.result replies) ∧
        moments' = (name :: running) :: moments := by
  constructor
  · intro h
    cases h with
    | itself h hending =>
      obtain ⟨hreplies, rfl⟩ := (hinner _ _).mp h
      rw [Except.ok.inj hreplies] at hending
      exact ⟨Ending.gives_iff.mp hending, rfl⟩
    | handedOn h => cases ((hinner _ _).mp h).1
  · rintro ⟨rfl, rfl⟩
    exact .itself ((hinner _ _).mpr ⟨rfl, rfl⟩) (Ending.gives_iff.mpr rfl)

/-- The body does not go on after an error that is propagated. -/
theorem Call.not_goesOn {cause : Error} (hleaves : call.propagates = true) :
    ¬ (call.propagates = false ∨ ∃ reply : Reply, Except.error cause = .ok reply) := by
  rintro (hstays | ⟨_, hreply⟩)
  · rw [hleaves] at hstays
    cases hstays
  · cases hreply

theorem innerEnd_iff_of_propagated {cause : Error}
    (hcall : ∀ result' moments', call.Ends running result' moments' ↔
      result' = .error cause ∧ moments' = moments) (hleaves : call.propagates = true)
    (result' : Except Error (List Reply)) (moments' : List (List String)) :
    InnerEnd running (call :: rest) result' moments' ↔
      result' = .error cause ∧ moments' = moments ++ [running] := by
  constructor
  · intro h
    cases h with
    | goesOn h hgoes _ =>
      obtain ⟨rfl, -⟩ := (hcall _ _).mp h
      exact absurd hgoes (Call.not_goesOn hleaves)
    | propagated h _ =>
      obtain ⟨hcause, rfl⟩ := (hcall _ _).mp h
      exact ⟨congrArg Except.error (Except.error.inj hcause), rfl⟩
  · rintro ⟨rfl, rfl⟩
    exact .propagated ((hcall _ _).mpr ⟨rfl, rfl⟩) hleaves

theorem innerEnd_iff_of_goesOn {first : Except Error Reply} {others : Except Error (List Reply)}
    {later : List (List String)}
    (hcall : ∀ result' moments', call.Ends running result' moments' ↔
      result' = first ∧ moments' = moments)
    (hrest : ∀ result' moments', InnerEnd running rest result' moments' ↔
      result' = others ∧ moments' = later)
    (hgoes : call.propagates = false ∨ ∃ reply, first = .ok reply)
    (result' : Except Error (List Reply)) (moments' : List (List String)) :
    InnerEnd running (call :: rest) result' moments' ↔
      result' = others.map (Reply.of first :: ·) ∧ moments' = moments ++ running :: later := by
  constructor
  · intro h
    cases h with
    | goesOn h _ hothers =>
      obtain ⟨rfl, rfl⟩ := (hcall _ _).mp h
      obtain ⟨rfl, rfl⟩ := (hrest _ _).mp hothers
      exact ⟨rfl, rfl⟩
    | propagated h hleaves =>
      obtain ⟨rfl, -⟩ := (hcall _ _).mp h
      exact absurd hgoes (Call.not_goesOn hleaves)
  · rintro ⟨rfl, rfl⟩
    exact .goesOn ((hcall _ _).mpr ⟨rfl, rfl⟩) hgoes ((hrest _ _).mpr ⟨rfl, rfl⟩)

end

mutual

/-- A call ends in one way. -/
theorem Call.exists_ends_iff (running : List String) :
    ∀ call : Call, ∃ result moments, ∀ result' moments',
      call.Ends running result' moments' ↔ result' = result ∧ moments' = moments
  | .mk name _ inner _ => by
    obtain ⟨cause | replies, moments, hinner⟩ := exists_innerEnd_iff (name :: running) inner
    · exact ⟨_, _, Call.ends_iff_of_handedOn hinner⟩
    · exact ⟨_, _, Call.ends_iff_of_itself hinner⟩

/-- The inner calls of a body end in one way. -/
theorem exists_innerEnd_iff (running : List String) :
    ∀ inner : List Call, ∃ result moments, ∀ result' moments',
      InnerEnd running inner result' moments' ↔ result' = result ∧ moments' = moments
  | [] => by
    refine ⟨.ok [], [], fun _ _ => ⟨fun h => ?_, ?_⟩⟩
    · cases h
      exact ⟨rfl, rfl⟩
    · rintro ⟨rfl, rfl⟩
      exact .nil
  | call :: rest => by
    obtain ⟨cause | reply, moments, hcall⟩ := Call.exists_ends_iff running call
    · cases hleaves : call.propagates with
      | true => exact ⟨_, _, innerEnd_iff_of_propagated hcall hleaves⟩
      | false =>
        obtain ⟨others, later, hrest⟩ := exists_innerEnd_iff running rest
        exact ⟨_, _, innerEnd_iff_of_goesOn hcall hrest (Or.inl hleaves)⟩
    · obtain ⟨others, later, hrest⟩ := exists_innerEnd_iff running rest
      exact ⟨_, _, innerEnd_iff_of_goesOn hcall hrest (Or.inr ⟨reply, rfl⟩)⟩

end

/-- The guard is a bracket around every call. A call ends in one way, whatever is on record; the
looks find the innermost of the calls that run, and the record is the former one again. -/
theorem Call.run_brackets (call : Call) (running : List String) :
    ∃ result moments,
      (∀ result' moments', call.Ends running result' moments' ↔
        result' = result ∧ moments' = moments) ∧
      ∀ w : Watch, call.run w = (result, ⟨w.current, w.log ++ moments.map List.head?⟩) := by
  obtain ⟨result, moments, h⟩ := call.exists_ends_iff running
  exact ⟨result, moments, h, ((h result moments).mpr ⟨rfl, rfl⟩).run_eq⟩

/-- A panic inside is an error of the inner call, and the outer one goes on under its name. -/
example : (Call.mk "outer" false [.mk "inner" false [] (.panic .other)] (.answer "")).runLogged =
    (.ok (.answer "" [.failed (.execution (.panicked "inner" "unknown panic"))]),
      [none, some "outer", some "inner", some "outer", none]) := rfl

end SurfaceDrift
