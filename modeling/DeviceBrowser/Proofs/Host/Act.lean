import DeviceBrowser.Host.Basic

/-!
Running a course of action, and what is certain when it comes to its end.

`runFrom` opens a course of action step by step.  `Ensures` speaks only of runs that come to
their end; it is proved along the same steps without a run being written out.  `Achieves` says
in addition that the run does come to its end.  `Mirrors` compares runs in two worlds, one of
which holds more than the other.
-/

namespace DeviceBrowser.Act

variable {World Value Result : Type}

def runFrom (act : Act World Value) (world : World) : Except Abort Value × World :=
  ExceptT.run act world

@[simp]
theorem runFrom_pure (value : Value) (world : World) :
    runFrom (pure value : Act World Value) world = (.ok value, world) := rfl

@[simp]
theorem runFrom_lift (question : StateM World Value) (world : World) :
    runFrom (liftM question : Act World Value) world =
      (.ok (question world).1, (question world).2) := rfl

@[simp]
theorem runFrom_bind (act : Act World Value) (next : Value → Act World Result) (world : World) :
    runFrom (act >>= next) world =
      match runFrom act world with
      | (.ok value, world) => runFrom (next value) world
      | (.error abort, world) => (.error abort, world) := by
  simp only [runFrom, bind, ExceptT.bind, ExceptT.run, ExceptT.mk, StateT.bind]
  rcases act world with ⟨_ | _, _⟩ <;> rfl

@[simp]
theorem runFrom_map (change : Value → Result) (act : Act World Value) (world : World) :
    runFrom (change <$> act) world =
      match runFrom act world with
      | (.ok value, world) => (.ok (change value), world)
      | (.error abort, world) => (.error abort, world) := by
  rw [map_eq_pure_bind, runFrom_bind]
  rfl

theorem exists_of_isOk {act : Act World Value} {world : World}
    (completes : (act.runFrom world).1.isOk = true) :
    ∃ value later, act.runFrom world = (.ok value, later) := by
  rcases ran : act.runFrom world with ⟨abort | value, later⟩
  · rw [ran] at completes
    cases completes
  · exact ⟨value, later, rfl⟩

theorem exists_of_bind {act : Act World Value} {next : Value → Act World Result}
    {world final : World} {result : Result}
    (finished : (act >>= next).runFrom world = (.ok result, final)) :
    ∃ value later, act.runFrom world = (.ok value, later) ∧
      (next value).runFrom later = (.ok result, final) := by
  rw [runFrom_bind] at finished
  rcases ran : act.runFrom world with ⟨abort | value, later⟩
  · rw [ran] at finished
    cases finished
  · rw [ran] at finished
    exact ⟨value, later, rfl, finished⟩

/-- Whenever a course of action comes to its end, its outcome and the world at that time
satisfy `post`. -/
def Ensures (act : Act World Value) (world : World) (post : Value → World → Prop) : Prop :=
  ∀ value later, runFrom act world = (.ok value, later) → post value later

variable {act : Act World Value} {next : Value → Act World Result} {world : World}
  {middle weaker : Value → World → Prop} {post : Result → World → Prop}

theorem Ensures.pure {value : Value} (holds : middle value world) :
    Ensures (pure value : Act World Value) world middle := by
  rintro _ _ ⟨⟩
  exact holds

theorem Ensures.lift {question : StateM World Value}
    (holds : middle (question world).1 (question world).2) :
    Ensures (liftM question : Act World Value) world middle := by
  rintro _ _ ⟨⟩
  exact holds

theorem Ensures.question {question : StateM World Value} :
    Ensures (liftM question) world fun value later => question world = (value, later) :=
  .lift rfl

theorem Ensures.bind (first : Ensures act world middle)
    (second : ∀ value later, middle value later → Ensures (next value) later post) :
    Ensures (act >>= next) world post := by
  intro result final finished
  obtain ⟨value, later, ran, rest⟩ := exists_of_bind finished
  exact second value later (first value later ran) result final rest

theorem Ensures.pure_bind {value : Value} (rest : Ensures (next value) world post) :
    Ensures ((Pure.pure value : Act World Value) >>= next) world post := by
  rwa [LawfulMonad.pure_bind]

theorem Ensures.throw_bind {abort : Abort} : Ensures (throw abort >>= next) world post := by
  rintro _ _ ⟨⟩

theorem Ensures.weaken (ensured : Ensures act world middle)
    (weakening : ∀ value later, middle value later → weaker value later) :
    Ensures act world weaker :=
  fun value later finished => weakening value later (ensured value later finished)

theorem Ensures.and {other : Value → World → Prop} (ensured : Ensures act world middle)
    (more : Ensures act world other) :
    Ensures act world fun value later => middle value later ∧ other value later :=
  fun value later finished => ⟨ensured value later finished, more value later finished⟩

theorem Ensures.ran (ensured : Ensures act world middle) :
    Ensures act world fun value later =>
      runFrom act world = (.ok value, later) ∧ middle value later :=
  fun value later finished => ⟨finished, ensured value later finished⟩

/-- A course of action comes to its end, and its outcome and the world at that time satisfy
`post`. -/
def Achieves (act : Act World Value) (world : World) (post : Value → World → Prop) : Prop :=
  ∃ value later, runFrom act world = (.ok value, later) ∧ post value later

theorem Achieves.ensures (achieved : Achieves act world middle) : Ensures act world middle := by
  obtain ⟨value, later, ran, holds⟩ := achieved
  intro other final finished
  rw [ran] at finished
  cases finished
  exact holds

theorem Achieves.pure {value : Value} (holds : middle value world) :
    Achieves (pure value : Act World Value) world middle :=
  ⟨value, world, rfl, holds⟩

theorem Achieves.lift {question : StateM World Value}
    (ensured : Ensures (liftM question : Act World Value) world middle) :
    Achieves (liftM question : Act World Value) world middle :=
  ⟨_, _, rfl, ensured _ _ rfl⟩

theorem Achieves.bind (first : Achieves act world middle)
    (second : ∀ value later, middle value later → Achieves (next value) later post) :
    Achieves (act >>= next) world post := by
  obtain ⟨value, later, ran, holds⟩ := first
  obtain ⟨result, final, finished, reached⟩ := second value later holds
  refine ⟨result, final, ?_, reached⟩
  rw [runFrom_bind, ran]
  exact finished

variable {Rich Plain : Type} {view : Rich → Plain} {rich : Act Rich Value}
  {plain : Act Plain Value} {richNext : Value → Act Rich Result}
  {plainNext : Value → Act Plain Result}

/-- A course of action goes as a plainer one does in what is viewed of its world. -/
def Mirrors (view : Rich → Plain) (rich : Act Rich Value) (plain : Act Plain Value) : Prop :=
  ∀ world, plain.runFrom (view world) = ((rich.runFrom world).1, view (rich.runFrom world).2)

theorem Mirrors.pure (value : Value) : Mirrors view (pure value) (pure value) :=
  fun _ => rfl

theorem Mirrors.bind (first : Mirrors view rich plain)
    (second : ∀ value, Mirrors view (richNext value) (plainNext value)) :
    Mirrors view (rich >>= richNext) (plain >>= plainNext) := by
  intro world
  rw [runFrom_bind, runFrom_bind, first world]
  rcases rich.runFrom world with ⟨abort | value, later⟩
  · rfl
  · exact second value later

end DeviceBrowser.Act
