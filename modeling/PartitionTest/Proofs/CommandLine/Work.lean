import PartitionTest.CommandLine

/-! What the work of a command comes to: the ways in which it succeeds, told by a
relation between worlds, and the worlds in which it panics. -/
namespace PartitionTest

theorem LogLevel.ofName?_eq_some_iff {text : String} {level : LogLevel} :
    ofName? text = some level ↔ level.name = text := by
  constructor
  · intro found
    have same := List.find?_some (p := fun l : LogLevel => l.name == text) found
    exact beq_iff_eq.mp same
  · rintro rfl
    cases level <;> rfl

namespace CommandLine

variable {World : Type}

namespace Work

variable {α β : Type} {x : Work World α} {f : α → Work World β}
  {P P' : World → α → World → Prop} {Q : α → World → β → World → Prop}
  {J J' : World → Prop} {K : α → World → Prop}

def on (x : Work World α) (w : World) : Except Stop α × World := x.run.run w

theorem on_bind (x : Work World α) (f : α → Work World β) (w : World) :
    (x >>= f).on w =
      match x.on w with
      | (.ok a, w') => (f a).on w'
      | (.error e, w') => (.error e, w') := by
  unfold on
  rw [ExceptT.run_bind, StateT.run_bind]
  rcases x.run.run w with ⟨_ | _, _⟩ <;> rfl

/-- Work succeeds in just these ways, in a world, with a result, leaving a world,
and panics in just these worlds. -/
structure Does (x : Work World α) (P : World → α → World → Prop) (J : World → Prop) : Prop where
  succeeds : ∀ w a w', x.on w = (.ok a, w') ↔ P w a w'
  panics : ∀ w, (∃ w', x.on w = (.error .panic, w')) ↔ J w

abbrev DoesCalmly (x : Work World α) (P : World → α → World → Prop) : Prop :=
  x.Does P fun _ => False

namespace Does

theorem congr (h : x.Does P J) (same : ∀ w a w', P w a w' ↔ P' w a w')
    (panics : ∀ w, J w ↔ J' w) : x.Does P' J' :=
  ⟨fun w a w' => (h.succeeds w a w').trans (same w a w'),
    fun w => (h.panics w).trans (panics w)⟩

theorem pure (a : α) : (Pure.pure a : Work World α).DoesCalmly fun w b w' => b = a ∧ w' = w where
  succeeds w b w' := by
    constructor
    · rintro ⟨⟩
      exact ⟨rfl, rfl⟩
    · rintro ⟨rfl, rfl⟩
      rfl
  panics _ := iff_of_false nofun id

theorem fail (e : Failure) : (throw (.failure e) : Work World α).DoesCalmly fun _ _ _ => False where
  succeeds _ _ _ := iff_of_false nofun id
  panics _ := iff_of_false nofun id

theorem bind (hx : x.Does P J) (hf : ∀ a, (f a).Does (Q a) (K a)) :
    (x >>= f).Does (fun w b w'' => ∃ a w', P w a w' ∧ Q a w' b w'')
      fun w => J w ∨ ∃ a w', P w a w' ∧ K a w' where
  succeeds w b w'' := by
    simp only [on_bind, ← hx.succeeds, ← (hf _).succeeds]
    rcases x.on w with ⟨_ | a, w'⟩
    · exact iff_of_false nofun nofun
    · exact ⟨fun done => ⟨a, w', rfl, done⟩, by rintro ⟨_, _, ⟨⟩, done⟩; exact done⟩
  panics w := by
    simp only [on_bind, ← hx.panics, ← hx.succeeds, ← (hf _).panics]
    rcases x.on w with ⟨e | a, w'⟩ <;> dsimp only
    · constructor
      · rintro ⟨_, ⟨⟩⟩
        exact .inl ⟨w', rfl⟩
      · rintro (⟨_, ⟨⟩⟩ | ⟨_, _, ⟨⟩, _⟩)
        exact ⟨w', rfl⟩
    · exact ⟨fun h => .inr ⟨a, w', rfl, h⟩, by rintro (⟨_, ⟨⟩⟩ | ⟨_, _, ⟨⟩, h⟩); exact h⟩

theorem after (hx : x.DoesCalmly P) (hf : ∀ a, (f a).Does (Q a) (K a)) :
    (x >>= f).Does (fun w b w'' => ∃ a w', P w a w' ∧ Q a w' b w'')
      fun w => ∃ a w', P w a w' ∧ K a w' :=
  (hx.bind hf).congr (fun _ _ _ => .rfl) fun _ => iff_of_eq (false_or _)

end Does

theorem on_lift (action : StateM World α) (w : World) :
    (liftM action : Work World α).on w = (.ok (action.run w).1, (action.run w).2) := rfl

theorem does_lift (action : StateM World α) :
    (liftM action : Work World α).DoesCalmly fun w a w' => action.run w = (a, w') where
  succeeds w a w' := by
    rw [on_lift]
    constructor
    · intro same
      obtain ⟨first, rfl⟩ := Prod.mk.inj same
      rw [← Except.ok.inj first]
      rfl
    · intro ran
      rw [ran]
  panics _ := iff_of_false nofun id

theorem does_check (r : Except Failure α) :
    (check r : Work World α).DoesCalmly fun w a w' => r = .ok a ∧ w' = w := by
  cases r with
  | error e => exact (Does.fail e).congr (fun _ _ _ => iff_of_false id nofun) fun _ => .rfl
  | ok b =>
    exact (Does.pure b).congr (fun _ _ _ => and_congr_left fun _ => by simp [eq_comm])
      fun _ => .rfl

theorem does_fromFiles (host : Host World) (f : FileView → Except Failure α) :
    (fromFiles host f).DoesCalmly fun w a w' => f (host.files w) = .ok a ∧ w' = w where
  succeeds w a w' := (does_check (f (host.files w))).succeeds w a w'
  panics w := (does_check (f (host.files w))).panics w

theorem does_abort (host : Host World) (p : Panic) :
    (abort host p : Work World α).Does (fun _ _ _ => False) fun _ => True where
  succeeds _ _ _ := iff_of_false nofun id
  panics _ := iff_of_true ⟨_, rfl⟩ trivial

end Work

/-- A file is replaced, or the text is printed if none is named. -/
def WritesTo (host : Host World) (path : Option String) (text : String) (w w' : World) : Prop :=
  match path with
  | some path => (host.write path text).run w = (.ok (), w')
  | none => (host.put .stdout (ended text)).run w = (.ok (), w')

def Unprinted (host : Host World) (path : Option String) (text : String) (w : World) : Prop :=
  path = none ∧ ∃ e w', (host.put .stdout (ended text)).run w = (.error e, w')

namespace OutputOptions

def LevelKnown (o : OutputOptions) : Prop :=
  ∀ text ∈ o.logLevel, ∃ level : LogLevel, level.name = text

def newLog (o : OutputOptions) (runId clock : String) : Log where
  runId := runId
  minLevel := (o.logLevel.bind LogLevel.ofName?).getD .info
  clock := clock

/-- The log that is asked for by a file or a level, if any, is opened. -/
def Opens (o : OutputOptions) (host : Host World) (new : Log) (w : World)
    (log : Option (Journal World)) (w' : World) : Prop :=
  match o.log with
  | some path => ∃ d, (host.create path).run w = (.ok d, w') ∧
      log = some ⟨new, host.blocks d, ""⟩
  | none => w' = w ∧ log = o.logLevel.map fun _ => ⟨new, host.direct .stderr, ""⟩

end OutputOptions

namespace Work

variable {α β : Type} {P : β → World → α → World → Prop} {J : Prop}

/-- What is attempted may be refused, and then the work ends, in a panic or not. -/
theorem does_attempt {action : StateM World (Except FileError β)}
    {next : Except FileError β → Work World α} (ok : ∀ b, (next (.ok b)).DoesCalmly (P b))
    (error : ∀ e, (next (.error e)).Does (fun _ _ _ => False) fun _ => J) :
    (liftM action >>= next : Work World α).Does
      (fun w a w'' => ∃ b w', action.run w = (.ok b, w') ∧ P b w' a w'')
      fun w => J ∧ ∃ e w', action.run w = (.error e, w') := by
  refine ((does_lift action).after
    (Q := fun r w a w' => ∃ b, r = .ok b ∧ P b w a w')
    (K := fun r _ => J ∧ ∃ e, r = .error e) fun r => ?_).congr (fun w a w'' => ?_) fun w => ?_
  · cases r with
    | ok b => exact (ok b).congr (fun _ _ _ => by simp) fun _ => by simp
    | error e => exact (error e).congr (fun _ _ _ => by simp) fun _ => by simp
  · constructor
    · rintro ⟨_, w', ran, b, rfl, done⟩
      exact ⟨b, w', ran, done⟩
    · rintro ⟨b, w', ran, done⟩
      exact ⟨_, w', ran, b, rfl, done⟩
  · constructor
    · rintro ⟨_, w', ran, panics, e, rfl⟩
      exact ⟨panics, e, w', ran⟩
    · rintro ⟨panics, e, w', ran⟩
      exact ⟨_, w', ran, panics, e, rfl⟩

theorem does_print (host : Host World) (text : String) :
    (print host text).Does (fun w _ w' => (host.put .stdout text).run w = (.ok (), w'))
      fun w => ∃ e w', (host.put .stdout text).run w = (.error e, w') := by
  refine (does_attempt (fun _ => Does.pure ()) fun e => does_abort host _).congr
    (fun w _ w' => ?_) fun w => and_iff_right trivial
  constructor
  · rintro ⟨_, _, put, rfl, rfl⟩
    exact put
  · exact fun put => ⟨(), w', put, rfl, rfl⟩

theorem does_writeFile (host : Host World) (path text : String) :
    (writeFile host path text).DoesCalmly
      fun w _ w' => (host.write path text).run w = (.ok (), w') := by
  refine (does_attempt (fun _ => Does.pure ()) fun e => Does.fail _).congr
    (fun w _ w' => ?_) fun w => by simp
  constructor
  · rintro ⟨_, _, written, rfl, rfl⟩
    exact written
  · exact fun written => ⟨(), w', written, rfl, rfl⟩

theorem does_openNew (host : Host World) (o : OutputOptions) (new : Log) :
    (openNew host o new).DoesCalmly (o.Opens host new) := by
  unfold openNew OutputOptions.Opens
  cases o.log with
  | some path =>
    refine (does_attempt (fun d => Does.pure (some (Journal.mk new (host.blocks d) "")))
      fun e => Does.fail (.file path e)).congr (fun w log w' => ?_) fun w => by simp
    constructor
    · rintro ⟨d, _, created, rfl, rfl⟩
      exact ⟨d, created, rfl⟩
    · rintro ⟨d, created, rfl⟩
      exact ⟨d, w', created, rfl, rfl⟩
  | none => exact (Does.pure _).congr (fun _ _ _ => and_comm) fun _ => .rfl

theorem chosenLevel_eq_ok_iff {o : OutputOptions} {level : Option LogLevel} :
    chosenLevel o = .ok level ↔ o.LevelKnown ∧ level = o.logLevel.bind LogLevel.ofName? := by
  unfold chosenLevel OutputOptions.LevelKnown
  cases o.logLevel with
  | none => simp [eq_comm]
  | some text =>
    simp only [Option.mem_some_iff, forall_eq', Option.bind_some, ← LogLevel.ofName?_eq_some_iff]
    cases LogLevel.ofName? text with
    | none => simp
    | some level => simp [eq_comm]

theorem does_openLog (host : Host World) (o : OutputOptions) (runId clock : String) :
    (openLog host o runId clock).DoesCalmly fun w log w' =>
      o.LevelKnown ∧ o.Opens host (o.newLog runId clock) w log w' := by
  refine ((does_check (chosenLevel o)).after fun level =>
    does_openNew host o _).congr (fun w log w' => ?_) fun w => by simp
  simp only [chosenLevel_eq_ok_iff]
  constructor
  · rintro ⟨_, _, ⟨⟨known, rfl⟩, rfl⟩, opened⟩
    exact ⟨known, opened⟩
  · rintro ⟨known, opened⟩
    exact ⟨_, w, ⟨⟨known, rfl⟩, rfl⟩, opened⟩

theorem does_layOut (host : Host World) (text : Option String) :
    (layOut host text).Does (fun w t w' => text = some t ∧ w' = w) fun _ => text = none := by
  cases text with
  | none =>
    exact (does_abort host .width).congr (fun _ _ _ => by simp) fun _ => by simp
  | some t =>
    exact (Does.pure t).congr (fun _ _ _ => by simp [eq_comm]) fun _ => by simp

theorem does_writeOutput (host : Host World) (o : OutputOptions) (text : String) :
    (writeOutput host o text).Does (fun w _ w' => WritesTo host o.output text w w')
      (Unprinted host o.output text) := by
  unfold writeOutput WritesTo Unprinted
  cases o.output with
  | none => exact (does_print host (ended text)).congr (fun _ _ _ => .rfl) fun _ => by simp
  | some path => exact (does_writeFile host path text).congr (fun _ _ _ => .rfl) fun _ => by simp

theorem does_deliver (host : Host World) (o : OutputOptions) (text : Option String)
    (status : RunStatus) :
    (deliver host o text status).Does
      (fun w s w' => s = status ∧ ∃ t, text = some t ∧ WritesTo host o.output t w w')
      fun w => text = none ∨ ∃ t, text = some t ∧ Unprinted host o.output t w := by
  refine ((does_layOut host text).bind fun t => (does_writeOutput host o t).bind fun _ =>
    Does.pure status).congr (fun w s w' => ?_) fun w => ?_
  · constructor
    · rintro ⟨t, _, ⟨laid, rfl⟩, _, _, written, rfl, rfl⟩
      exact ⟨rfl, t, laid, written⟩
    · rintro ⟨rfl, t, laid, written⟩
      exact ⟨t, w, ⟨laid, rfl⟩, (), w', written, rfl, rfl⟩
  · simp only [or_false, exists_false, and_false]
    refine or_congr_right (exists_congr fun t => ?_)
    exact ⟨by rintro ⟨_, ⟨laid, rfl⟩, h⟩; exact ⟨laid, h⟩, fun ⟨laid, h⟩ => ⟨w, ⟨laid, rfl⟩, h⟩⟩

theorem on_andLast {α : Type} (x : Work World α) (last : StateM World Unit) (w : World) :
    (x.andLast last).on w = ((x.on w).1, (last.run (x.on w).2).2) := rfl

theorem does_andLast {x : Work World α} {P : World → α → World → Prop} {J : World → Prop}
    (hx : x.Does P J) (last : StateM World Unit) :
    (x.andLast last).Does (fun w a w'' => ∃ w', P w a w' ∧ w'' = (last.run w').2) J where
  succeeds w a w'' := by
    simp only [on_andLast, ← hx.succeeds]
    rcases x.on w with ⟨_ | b, w'⟩
    · exact iff_of_false nofun nofun
    · constructor
      · rintro ⟨⟩
        exact ⟨w', rfl, rfl⟩
      · rintro ⟨_, ⟨⟩, rfl⟩
        rfl
  panics w := by
    rw [on_andLast, ← hx.panics]
    rcases x.on w with ⟨e | b, w'⟩
    · constructor <;> rintro ⟨_, ⟨⟩⟩ <;> exact ⟨_, rfl⟩
    · exact iff_of_false nofun nofun

/-- Whatever is done with the result of a run, the log is closed after that. -/
theorem does_logged {run : StateM World (Except Failure α × Option (Journal World))}
    {next : α → Work World β} {Q : α → World → β → World → Prop} {K : α → World → Prop}
    (hn : ∀ a, (next a).Does (Q a) (K a)) :
    (logged run next).Does
      (fun w b w' => ∃ a log w₁ w₂, run.run w = ((.ok a, log), w₁) ∧ Q a w₁ b w₂ ∧
        w' = ((closeLog log).run w₂).2)
      fun w => ∃ a log w₁, run.run w = ((.ok a, log), w₁) ∧ K a w₁ := by
  refine ((does_lift run).after fun ran =>
    does_andLast ((does_check ran.1).after hn) (closeLog ran.2)).congr (fun w b w' => ?_)
      fun w => ?_
  · constructor
    · rintro ⟨⟨_, log⟩, w₁, ran, w₂, ⟨a, _, ⟨rfl, rfl⟩, done⟩, rfl⟩
      exact ⟨a, log, _, w₂, ran, done, rfl⟩
    · rintro ⟨a, log, w₁, w₂, ran, done, rfl⟩
      exact ⟨_, w₁, ran, w₂, ⟨a, w₁, ⟨rfl, rfl⟩, done⟩, rfl⟩
  · constructor
    · rintro ⟨⟨_, log⟩, w₁, ran, a, _, ⟨rfl, rfl⟩, panics⟩
      exact ⟨a, log, _, ran, panics⟩
    · rintro ⟨a, log, w₁, ran, panics⟩
      exact ⟨_, w₁, ran, a, w₁, ⟨rfl, rfl⟩, panics⟩

end Work

end CommandLine

end PartitionTest
