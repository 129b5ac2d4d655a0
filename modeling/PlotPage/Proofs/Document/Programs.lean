import PlotPage.Document.Editing
import PlotPage.Proofs.Result

/-!
# Programs that do all or nothing

A program that works in place may leave half of its work behind when it fails.  It does not if its
checks stand before its writes: a check that fails has changed nothing (`Edit.Performs.ask_bind`),
and after a write nothing fails any more (`Edit.Performs.then_sure`).  What such a program does can
be said as a function on whole states (`Edit.Performs`), and when it fails, the state is as before
(`Edit.Performs.clean`).
-/

namespace PlotPage

variable {σ τ α β : Type}

/-- The outcome of a function that says what becomes of the whole state. -/
def Outcome.ofExcept (s : σ) : Except Fault (α × σ) → Outcome σ Fault α
  | .ok (a, s') => { result := .ok a, state := s' }
  | .error f => { result := .error f, state := s }

/-- The same for a function that also says what is reported. -/
def Outcome.ofReport (s : σ) : Except Fault ((α × σ) × List Notice) → Outcome σ Fault α
  | .ok (r, notices) => { result := .ok r.1, state := r.2, notices := notices }
  | .error f => { result := .error f, state := s }

namespace Edit

/-- What the program does is what the function says: all of it, or nothing. -/
def Performs (x : Edit σ α) (f : σ → Except Fault (α × σ)) : Prop := ∀ s, x s = .ofExcept s (f s)

/-- When the program fails, the state is as before. -/
def Clean (x : Edit σ α) : Prop := ∀ s f, (x s).result = .error f → (x s).state = s

def Sure (x : Edit σ α) : Prop := ∀ s f, (x s).result ≠ .error f

/-! ### One after another -/

theorem bind_of_error {x : Edit σ α} {k : α → Edit σ β} {s : σ} {f : Fault}
    (h : (x s).result = .error f) :
    (x >>= k) s = { result := .error f, state := (x s).state, notices := (x s).notices } := by
  show Edit.bind x k s = _
  simp only [Edit.bind, h]

theorem bind_of_ok {x : Edit σ α} {k : α → Edit σ β} {s : σ} {a : α} (h : (x s).result = .ok a) :
    (x >>= k) s = { k a (x s).state with
      notices := (x s).notices ++ (k a (x s).state).notices } := by
  show Edit.bind x k s = _
  simp only [Edit.bind, h]

variable {x : Edit σ α} {f : σ → Except Fault (α × σ)}

theorem Performs.congr {g : σ → Except Fault (α × σ)} (h : Performs x f) (hfg : ∀ s, f s = g s) :
    Performs x g := by
  intro s
  rw [h s, hfg s]

theorem performs_ask (e : σ → Except Fault α) :
    Performs (ask e) fun s => (e s).map fun a => (a, s) := by
  intro s
  show ({ result := e s, state := s } : Outcome σ Fault α) = .ofExcept s ((e s).map fun a => (a, s))
  cases e s <;> rfl

theorem performs_check (e : Except Fault α) :
    Performs (check e : Edit σ α) fun s => e.map fun a => (a, s) := performs_ask fun _ => e

theorem performs_pure (a : α) : Performs (pure a : Edit σ α) fun s => .ok (a, s) := fun _ => rfl

theorem performs_look (f : σ → α) : Performs (look f) fun s => .ok (f s, s) := fun _ => rfl

theorem performs_write (f : σ → σ) : Performs (write f) fun s => .ok ((), f s) := fun _ => rfl

/-- What follows a program that does all or nothing. -/
theorem Performs.bind_apply (hx : Performs x f) (k : α → Edit σ β) (s : σ) :
    (x >>= k) s = match f s with
      | .ok r => k r.1 r.2
      | .error e => { result := .error e, state := s } := by
  have hs := hx s
  cases hf : f s with
  | error e =>
    rw [hf] at hs
    have hresult : (x s).result = .error e := by rw [hs]; rfl
    rw [bind_of_error hresult, hs]
    rfl
  | ok r =>
    rw [hf] at hs
    have hresult : (x s).result = .ok r.1 := by rw [hs]; rfl
    rw [bind_of_ok hresult, hs]
    rfl

/-- **A question comes first**, and if there is a fault in its answer, nothing has happened yet. -/
theorem Performs.ask_bind {e : σ → Except Fault α} {k : α → Edit σ β}
    {g : α → σ → Except Fault (β × σ)} (hk : ∀ a, Performs (k a) (g a)) :
    Performs (ask e >>= k) fun s => e s >>= fun a => g a s := by
  intro s
  rw [(performs_ask e).bind_apply k s]
  show _ = Outcome.ofExcept s (e s >>= fun a => g a s)
  cases e s with
  | error f => rfl
  | ok a => exact hk a s

theorem Performs.check_bind {e : Except Fault α} {k : α → Edit σ β}
    {g : α → σ → Except Fault (β × σ)} (hk : ∀ a, Performs (k a) (g a)) :
    Performs (check e >>= k) fun s => e >>= fun a => g a s := .ask_bind hk

theorem Performs.look_bind {f : σ → α} {k : α → Edit σ β} {g : α → σ → Except Fault (β × σ)}
    (hk : ∀ a, Performs (k a) (g a)) : Performs (look f >>= k) fun s => g (f s) s := .ask_bind hk

/-- **What comes after a write cannot fail.** -/
theorem Performs.then_sure (hx : Performs x f) {k : α → Edit σ β} {g : α → σ → β × σ}
    (hk : ∀ a, Performs (k a) fun s => .ok (g a s)) :
    Performs (x >>= k) fun s => (f s).map fun r => g r.1 r.2 := by
  intro s
  rw [hx.bind_apply k s]
  show _ = Outcome.ofExcept s ((f s).map fun r => g r.1 r.2)
  cases f s with
  | error e => rfl
  | ok r => exact hk r.1 r.2

/-- A program on a part of a state, if the part can be put back where it was taken from. -/
theorem Performs.part {get : τ → σ} {put : τ → σ → τ} (hx : Performs x f)
    (hput : ∀ t, put t (get t) = t) :
    Performs (Edit.part get put x) fun t => (f (get t)).map fun r => (r.1, put t r.2) := by
  intro t
  show (x (get t)).within (put t) = .ofExcept t ((f (get t)).map fun r => (r.1, put t r.2))
  rw [hx (get t)]
  cases f (get t) with
  | ok r => rfl
  | error e =>
    show ({ result := .error e, state := put t (get t) } : Outcome τ Fault α) = _
    rw [hput t]
    rfl

/-! ### Programs that answer nothing -/

/-- The program changes the state as the function says, or leaves it as it is. -/
def Writes (x : Edit σ Unit) (e : σ → Except Fault σ) : Prop :=
  Performs x fun s => (e s).map fun t => ((), t)

theorem writes_write (f : σ → σ) : Writes (write f) fun s => .ok (f s) := performs_write f

section Writes

variable {y : Edit σ Unit} {e : σ → Except Fault σ}

theorem Writes.congr {e' : σ → Except Fault σ} (h : Writes y e) (hee : ∀ s, e s = e' s) :
    Writes y e' := Performs.congr h fun s => by rw [hee s]

theorem Writes.ask_bind {q : σ → Except Fault α} {k : α → Edit σ Unit}
    {g : α → σ → Except Fault σ} (hk : ∀ a, Writes (k a) (g a)) :
    Writes (ask q >>= k) fun s => q s >>= fun a => g a s := by
  refine (Performs.ask_bind hk).congr fun s => ?_
  show (q s >>= fun a => (g a s).map _) = (q s >>= fun a => g a s).map _
  cases q s <;> rfl

theorem Writes.check_bind {q : Except Fault α} {k : α → Edit σ Unit} {g : α → σ → Except Fault σ}
    (hk : ∀ a, Writes (k a) (g a)) : Writes (check q >>= k) fun s => q >>= fun a => g a s :=
  .ask_bind hk

theorem Writes.look_bind {f : σ → α} {k : α → Edit σ Unit} {g : α → σ → Except Fault σ}
    (hk : ∀ a, Writes (k a) (g a)) : Writes (look f >>= k) fun s => g (f s) s := .ask_bind hk

theorem Writes.part {get : τ → σ} {put : τ → σ → τ} (hy : Writes y e)
    (hput : ∀ t, put t (get t) = t) :
    Writes (Edit.part get put y) fun t => do return put t (← e (get t)) := by
  refine (Performs.part hy hput).congr fun t => ?_
  show ((e (get t)).map _).map _ = (e (get t) >>= _).map _
  cases e (get t) <;> rfl

/-- What is answered after the last write is no fault. -/
theorem Writes.answering (hy : Writes y e) (b : β) :
    Performs (y >>= fun _ => pure b) fun s => do return (b, ← e s) := by
  refine (Performs.then_sure hy fun _ => performs_pure b).congr fun s => ?_
  show ((e s).map _).map _ = e s >>= _
  cases e s <;> rfl

end Writes

/-! ### Programs that report -/

/-- What the program does and reports is what the function says: all of it, or nothing. -/
def Reports (x : Edit σ α) (f : σ → Except Fault ((α × σ) × List Notice)) : Prop :=
  ∀ s, x s = .ofReport s (f s)

section Reports

variable {r : σ → Except Fault ((α × σ) × List Notice)}

theorem Reports.congr {r' : σ → Except Fault ((α × σ) × List Notice)} (h : Reports x r)
    (hrr : ∀ s, r s = r' s) : Reports x r' := by
  intro s
  rw [h s, hrr s]

theorem Reports.ask_bind {e : σ → Except Fault α} {k : α → Edit σ β}
    {g : α → σ → Except Fault ((β × σ) × List Notice)} (hk : ∀ a, Reports (k a) (g a)) :
    Reports (ask e >>= k) fun s => e s >>= fun a => g a s := by
  intro s
  rw [(performs_ask e).bind_apply k s]
  show _ = Outcome.ofReport s (e s >>= fun a => g a s)
  cases e s with
  | error f => rfl
  | ok a => exact hk a s

theorem Reports.check_bind {e : Except Fault α} {k : α → Edit σ β}
    {g : α → σ → Except Fault ((β × σ) × List Notice)} (hk : ∀ a, Reports (k a) (g a)) :
    Reports (check e >>= k) fun s => e >>= fun a => g a s := .ask_bind hk

theorem Reports.look_bind {f : σ → α} {k : α → Edit σ β}
    {g : α → σ → Except Fault ((β × σ) × List Notice)} (hk : ∀ a, Reports (k a) (g a)) :
    Reports (look f >>= k) fun s => g (f s) s := .ask_bind hk

/-- What comes after a write cannot fail, and reports nothing more. -/
theorem Reports.then_sure (hx : Reports x r) {k : α → Edit σ β} {g : α → σ → β × σ}
    (hk : ∀ a, Performs (k a) fun s => .ok (g a s)) :
    Reports (x >>= k) fun s => (r s).map fun o => (g o.1.1 o.1.2, o.2) := by
  intro s
  have hs := hx s
  show (x >>= k) s = .ofReport s ((r s).map fun o => (g o.1.1 o.1.2, o.2))
  cases hr : r s with
  | error e =>
    rw [hr] at hs
    have hresult : (x s).result = .error e := by rw [hs]; rfl
    rw [bind_of_error hresult, hs]
    rfl
  | ok o =>
    rw [hr] at hs
    have hresult : (x s).result = .ok o.1.1 := by rw [hs]; rfl
    rw [bind_of_ok hresult, hs]
    show { k o.1.1 o.1.2 with notices := o.2 ++ (k o.1.1 o.1.2).notices } = _
    rw [hk o.1.1 o.1.2]
    show ({ result := .ok (g o.1.1 o.1.2).1, state := (g o.1.1 o.1.2).2, notices := o.2 ++ [] } :
      Outcome σ Fault β) = _
    rw [List.append_nil]
    rfl

theorem Reports.part {get : τ → σ} {put : τ → σ → τ} (hx : Reports x r)
    (hput : ∀ t, put t (get t) = t) :
    Reports (Edit.part get put x) fun t =>
      (r (get t)).map fun o => ((o.1.1, put t o.1.2), o.2) := by
  intro t
  show (x (get t)).within (put t) =
    .ofReport t ((r (get t)).map fun o => ((o.1.1, put t o.1.2), o.2))
  rw [hx (get t)]
  cases r (get t) with
  | ok o => rfl
  | error e =>
    show ({ result := .error e, state := put t (get t) } : Outcome τ Fault α) = _
    rw [hput t]
    rfl

/-- A program on something that does not belong to the state. -/
theorem Reports.aside {y : Edit τ Unit} {f : τ → Except Fault ((Unit × τ) × List Notice)}
    (hy : Reports y f) (t : τ) :
    Reports (Edit.aside t y : Edit σ τ) fun s => (f t).map fun o => ((o.1.2, s), o.2) := by
  intro s
  show ({ result := (y t).result.map fun _ => (y t).state, state := s, notices := (y t).notices } :
    Outcome σ Fault τ) = .ofReport s ((f t).map fun o => ((o.1.2, s), o.2))
  rw [hy t]
  cases f t <;> rfl

theorem Reports.clean (hx : Reports x r) : Clean x := by
  intro s e he
  have hs := hx s
  cases hr : r s with
  | error e' =>
    rw [hs, hr]
    rfl
  | ok o =>
    rw [hs, hr] at he
    exact absurd he (by simp [Outcome.ofReport])

end Reports

/-! ### Programs that fail -/

theorem Performs.clean (hx : Performs x f) : Clean x := by
  intro s e he
  have hs := hx s
  cases hf : f s with
  | error e' =>
    rw [hs, hf]
    rfl
  | ok r =>
    rw [hs, hf] at he
    exact absurd he (by simp [Outcome.ofExcept])

theorem clean_readOff (run : σ → Outcome σ Fault α) : Clean (readOff run) := fun _ _ _ => rfl

theorem sure_of_ok (h : ∀ s, ∃ a, (x s).result = .ok a) : Sure x := by
  intro s f hf
  obtain ⟨a, ha⟩ := h s
  rw [ha] at hf
  exact absurd hf (by simp)

theorem sure_look (f : σ → α) : Sure (look f) := sure_of_ok fun s => ⟨f s, rfl⟩

theorem sure_pure (a : α) : Sure (pure a : Edit σ α) := sure_of_ok fun _ => ⟨a, rfl⟩

/-- What is asked or made beforehand leaves the state alone. -/
theorem Clean.bind {k : α → Edit σ β} (hstate : ∀ s, (x s).state = s) (hk : ∀ a, Clean (k a)) :
    Clean (x >>= k) := by
  intro s f hf
  cases hr : (x s).result with
  | error e =>
    rw [bind_of_error hr]
    exact hstate s
  | ok a =>
    rw [bind_of_ok hr] at hf ⊢
    have hsame := hk a (x s).state f hf
    rwa [hstate s] at hsame ⊢

theorem Clean.ask_bind {e : σ → Except Fault α} {k : α → Edit σ β} (hk : ∀ a, Clean (k a)) :
    Clean (ask e >>= k) := .bind (fun _ => rfl) hk

theorem Clean.then_sure (hx : Clean x) {k : α → Edit σ β} (hk : ∀ a, Sure (k a)) :
    Clean (x >>= k) := by
  intro s f hf
  cases hr : (x s).result with
  | error e =>
    rw [bind_of_error hr]
    exact hx s e hr
  | ok a =>
    rw [bind_of_ok hr] at hf
    exact absurd hf (hk a _ f)

theorem Clean.part {get : τ → σ} {put : τ → σ → τ} (hx : Clean x) (hput : ∀ t, put t (get t) = t) :
    Clean (Edit.part get put x) := by
  intro t f hf
  have hsame : (x (get t)).state = get t := hx (get t) f hf
  show put t (x (get t)).state = t
  rw [hsame, hput t]

end Edit

end PlotPage
