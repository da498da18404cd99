import RemoteDevice.Proofs.Connection.Lifecycle

/-!
# How a lifecycle changes

Each function of a lifecycle changes it in one of five ways (`Becomes`), and none of these leaves a
stream or a handle behind in a lifecycle that is not connected (`Becomes.sound`).
-/
set_option autoImplicit false

namespace RemoteDevice.Lifecycle

/-- The ways in which a lifecycle can change, while so many streams were opened. -/
inductive Becomes (opened : Nat) (l : Lifecycle) : Lifecycle → Prop
  | same : Becomes opened l l
  | unconnected (state : ConnectionState) (generation : UInt64) (before : l.state ≠ .connected)
      (unclosed : l.state ≠ .closed) : Becomes opened l { l with state, generation }
  | connected (stream : Nat) (connecting : l.state = .connecting) (there : stream < opened) :
      Becomes opened l { l with state := .connected, stream := some stream }
  | kept (direction : Direction) (handle : Handle) (stored : l.stream = some handle.stream) :
      Becomes opened l ({ l with handles := l.handles + 1 }.setHandle handle direction)
  | closed (generation : UInt64) :
      Becomes opened l
        { l with state := .closed, generation, stream := none, input := none, output := none }

/-- Streams and handles belong to connected lifecycles. -/
structure Sound (opened : Nat) (l : Lifecycle) : Prop where
  stored : ∀ stream, l.stream = some stream → l.state = .connected ∧ stream < opened
  kept : ∀ direction handle, l.handle? direction = some handle → l.stream = some handle.stream

variable {opened : Nat} {l l' : Lifecycle}

theorem prepare_becomes (l : Lifecycle) (available : Bool) :
    l.Becomes opened (l.prepare available).2 := by
  rcases l.prepare_next available with same | ⟨state, next⟩
  · rw [same]
    exact .same
  · rw [next]
    apply Becomes.unconnected <;> rcases state with state | state <;> simp [state]

theorem begin_becomes {ticket : UInt64} (begun : l.beginConnect = .ok (ticket, l')) :
    l.Becomes opened l' := by
  obtain ⟨prepared, -, rfl⟩ := beginConnect_ok begun
  apply Becomes.unconnected <;> simp [prepared]

theorem finish_becomes {ticket : UInt64} {answer : Except TransportError Nat}
    (noDelay : Except TransportError Unit)
    (known : ∀ stream, answer = .ok stream → stream < opened) :
    l.Becomes opened (l.finishConnect ticket answer noDelay).next := by
  rcases l.finishConnect_cases ticket answer noDelay with
    ⟨-, stale⟩ | ⟨awaited, fault, -, -, prepared⟩ | ⟨awaited, stream, answered, -, connected⟩
  · rw [stale]
    exact .same
  · have connecting := (awaits_iff.mp awaited).2
    rw [prepared]
    apply Becomes.unconnected <;> simp [connecting]
  · rw [connected]
    exact .connected stream (awaits_iff.mp awaited).2 (known stream answered)

theorem obtain_becomes (direction : Direction) (cloned : Except TransportError Unit) :
    l.Becomes opened (l.obtain direction cloned).2 := by
  rcases l.obtain_next direction cloned with same | ⟨stream, -, stored, next⟩
  · rw [same]
    exact .same
  · rw [next]
    exact .kept direction ⟨l.handles, stream⟩ stored

theorem close_becomes : l.Becomes opened l.close.next := by
  by_cases closed : l.state = .closed
  · rw [close_closed closed]
    exact .same
  · rw [close_open closed]
    exact .closed _

namespace Sound

theorem initial : Sound opened {} where
  stored := by simp
  kept := by intro direction handle kept; cases direction <;> cases kept

theorem mono (sound : l.Sound opened) {more : Nat} (le : opened ≤ more) : l.Sound more where
  stored stream stored :=
    ⟨(sound.stored stream stored).1, Nat.lt_of_lt_of_le (sound.stored stream stored).2 le⟩
  kept := sound.kept

theorem stream_eq_none (sound : l.Sound opened) (unconnected : l.state ≠ .connected) :
    l.stream = none := by
  rw [Option.eq_none_iff_forall_ne_some]
  intro stream stored
  exact unconnected (sound.stored stream stored).1

theorem handle_eq_none (sound : l.Sound opened) (unconnected : l.state ≠ .connected)
    (direction : Direction) : l.handle? direction = none := by
  rw [Option.eq_none_iff_forall_ne_some]
  intro handle kept
  have stored := sound.kept direction handle kept
  exact unconnected (sound.stored handle.stream stored).1

theorem of_obtained (sound : l.Sound opened) {direction : Direction}
    {cloned : Except TransportError Unit} {handle : Handle}
    (given : (l.obtain direction cloned).1 = .ok handle) :
    (l.obtain direction cloned).2.stream = some handle.stream := by
  cases found : l.handle? direction with
  | some kept =>
    simp only [obtain, found, Except.ok.injEq] at given ⊢
    exact given ▸ sound.kept direction kept found
  | none =>
    simp only [obtain, found] at given ⊢
    split at given
    next => cases given
    next stream done state stored =>
      cases given
      simp [state, stored]
    next => cases given

end Sound

namespace Becomes

theorem sound (becomes : l.Becomes opened l') (sound : l.Sound opened) : l'.Sound opened := by
  cases becomes with
  | same => exact sound
  | unconnected state generation before unclosed =>
    have bare := sound.stream_eq_none before
    have none := sound.handle_eq_none before
    constructor
    · intro stream stored
      exact absurd (bare.symm.trans stored) nofun
    · intro direction handle kept
      exact absurd ((none direction).symm.trans kept) nofun
  | connected stream connecting there =>
    have none := sound.handle_eq_none (by simp [connecting])
    constructor
    · intro other stored
      cases stored
      exact ⟨rfl, there⟩
    · intro direction handle kept
      exact absurd ((none direction).symm.trans kept) nofun
  | kept direction handle stored =>
    constructor
    · intro stream
      simpa using sound.stored stream
    · intro other given kept
      rw [handle?_setHandle] at kept
      rw [stream_setHandle]
      split at kept
      next =>
        cases kept
        exact stored
      next => exact sound.kept other given kept
  | closed generation =>
    constructor
    · nofun
    · intro direction handle kept
      cases direction <;> cases kept

/-- A stored stream stays until the closing. -/
theorem stored_or_closed (becomes : l.Becomes opened l') (sound : l.Sound opened) {stream : Nat}
    (stored : l.stream = some stream) : l'.stream = some stream ∨ l'.state = .closed := by
  have state := (sound.stored stream stored).1
  cases becomes with
  | same => exact .inl stored
  | unconnected _ _ before unclosed => exact absurd state before
  | connected _ connecting there => simp [connecting] at state
  | kept direction handle stored' => exact .inl (by rw [stream_setHandle, stored])
  | closed generation => exact .inr rfl

theorem stays_closed (becomes : l.Becomes opened l') (closed : l.state = .closed) :
    l'.state = .closed := by
  cases becomes with
  | same => exact closed
  | unconnected _ _ before unclosed => exact absurd closed unclosed
  | connected _ connecting there => simp [connecting] at closed
  | kept direction handle stored => rw [state_setHandle, closed]
  | closed generation => rfl

end Becomes

end RemoteDevice.Lifecycle
