/-
  Foundation/Commands.lean --- programs that talk to a server by commands.

  A program sends commands one at a time and goes on with the answers. The server
  executes a command at once; between two commands of a program anything may happen,
  commands of other programs included, and the program may die. So a program is a tree
  of commands, and there are three ways to run it: to its end, up to some command, or
  interleaved with others.

  What a program does whatever the answers are is stated with a monitor: notes that it
  takes of its answers, and the commands it is allowed to send by its notes.
-/
import DimooRun.Foundation.Dict
import DimooRun.Foundation.Raising

set_option autoImplicit false

namespace DimooRun.Foundation

/-- A program that sends commands, and returns or raises. -/
inductive Program (κ : Type) (Answer : κ → Type) (ε α : Type) : Type where
  | done (value : α)
  | raised (error : ε)
  | send (command : κ) (next : Answer command → Program κ Answer ε α)

namespace Program

variable {κ : Type} {Answer : κ → Type} {ε α β σ ρ : Type}

/-- One program after the other. -/
def bind : Program κ Answer ε α → (α → Program κ Answer ε β) → Program κ Answer ε β
  | done value, f => f value
  | raised error, _ => raised error
  | send command next, f => send command fun answer => (next answer).bind f

instance : Monad (Program κ Answer ε) where
  pure := done
  bind := bind

/-- Send a command, and return its answer. -/
def ask (command : κ) : Program κ Answer ε (Answer command) := send command done

@[simp] theorem ask_bind (command : κ) (f : Answer command → Program κ Answer ε β) :
    (ask command >>= f) = send command f := rfl

/-! ## To the end -/

section

variable (exec : (command : κ) → σ → Answer command × σ)

/-- Run to the end, alone. -/
def run : Program κ Answer ε α → EStateM ε σ α
  | done value => fun s => .ok value s
  | raised error => fun s => .error error s
  | send command next => fun s => run (next (exec command s).1) (exec command s).2

section

variable (p : Program κ Answer ε α) (f : α → Program κ Answer ε β) (s : σ)

@[simp] theorem run_send (command : κ) (next : Answer command → Program κ Answer ε α) (s : σ) :
    (run exec (send command next)).run s =
      (run exec (next (exec command s).1)).run (exec command s).2 := rfl

theorem run_bind : (run exec (p >>= f)).run s =
      match (run exec p).run s with
      | .ok a s' => (run exec (f a)).run s'
      | .error e s' => .error e s' := by
  induction p generalizing s with
  | done value => rfl
  | raised error => rfl
  | send command next ih => exact ih (exec command s).1 (exec command s).2

/-- Running one program after the other. -/
theorem run_bind_eq : run exec (p >>= f) = run exec p >>= fun a => run exec (f a) := by
  funext s
  show (run exec (p >>= f)).run s = (run exec p >>= fun a => run exec (f a)).run s
  rw [run_bind, EStateM.run_bind]
  cases (run exec p).run s with
  | ok a s' => rfl
  | error e s' => rfl

end

/-! ## Up to some command -/

/-- The rest of the program and the state after `n` commands. -/
def stop : Nat → Program κ Answer ε α → σ → Program κ Answer ε α × σ
  | 0, p, s => (p, s)
  | _ + 1, done value, s => (done value, s)
  | _ + 1, raised error, s => (raised error, s)
  | n + 1, send command next, s => stop n (next (exec command s).1) (exec command s).2

/-- The program is about to send a command of the kind. -/
def About (kind : κ → Prop) : Program κ Answer ε α → Prop
  | send command _ => kind command
  | _ => False

instance (kind : κ → Prop) [DecidablePred kind] (p : Program κ Answer ε α) :
    Decidable (p.About kind) :=
  match p with
  | send command _ => inferInstanceAs (Decidable (kind command))
  | done _ => .isFalse id
  | raised _ => .isFalse id

/-- Whenever the program is not about to send a command of the kind, the state is in order;
and if it returns, the result is as wanted. -/
def Keeps (kind : κ → Prop) (I : σ → Prop) (Q : α → σ → Prop) : Program κ Answer ε α → σ → Prop
  | done value, s => I s ∧ Q value s
  | raised _, s => I s
  | send command next, s =>
      (¬ kind command → I s) ∧ Keeps kind I Q (next (exec command s).1) (exec command s).2

variable {kind : κ → Prop} {I : σ → Prop} {Q : α → σ → Prop} {p : Program κ Answer ε α} {s : σ}

theorem keeps_bind {R : β → σ → Prop} {f : α → Program κ Answer ε β}
    (hf : ∀ a s, I s → Q a s → Keeps exec kind I R (f a) s) (hp : Keeps exec kind I Q p s) :
    Keeps exec kind I R (p >>= f) s := by
  induction p generalizing s with
  | done value => exact hf value s hp.1 hp.2
  | raised error => exact hp
  | send command next ih => exact ⟨hp.1, ih _ hp.2⟩

/-- A program that keeps the state in order leaves it so wherever it stops, but for the
commands of the kind. -/
theorem Keeps.stop (h : Keeps exec kind I Q p s) (n : Nat)
    (hkind : ¬ (Program.stop exec n p s).1.About kind) : I (Program.stop exec n p s).2 := by
  induction n generalizing p s with
  | zero =>
    cases p with
    | done value => exact h.1
    | raised error => exact h
    | send command next => exact h.1 hkind
  | succ n ih =>
    cases p with
    | done value => exact h.1
    | raised error => exact h
    | send command next => exact ih h.2 hkind

end

end Program

/-! ## Whatever the answers -/

/-- Notes that a program takes of its answers: which answers to expect, how they are
noted, and which commands the notes allow. -/
structure Monitor (κ : Type) (Answer : κ → Type) (ρ : Type) where
  allowed : ρ → κ → Prop
  possible : (command : κ) → Answer command → Prop
  note : ρ → (command : κ) → Answer command → ρ

namespace Monitor

variable {κ : Type} {Answer : κ → Type} {ε α β ρ : Type} (M : Monitor κ Answer ρ)

/-- Whatever the answers, every command is allowed by the notes taken before it, and if the
program returns, the result is as wanted. -/
def Obeys (Q : ρ → α → Prop) : ρ → Program κ Answer ε α → Prop
  | notes, .done value => Q notes value
  | _, .raised _ => True
  | notes, .send command next =>
      M.allowed notes command ∧
        ∀ answer, M.possible command answer → Obeys Q (M.note notes command answer) (next answer)

variable {M}

theorem obeys_bind {Q : ρ → α → Prop} {R : ρ → β → Prop} {f : α → Program κ Answer ε β}
    (hf : ∀ notes a, Q notes a → M.Obeys R notes (f a)) {p : Program κ Answer ε α} {notes : ρ}
    (hp : M.Obeys Q notes p) : M.Obeys R notes (p >>= f) := by
  induction p generalizing notes with
  | done value => exact hf notes value hp
  | raised error => exact trivial
  | send command next ih =>
    exact ⟨hp.1, fun answer hanswer => ih answer (hp.2 answer hanswer)⟩

theorem Obeys.mono {Q R : ρ → α → Prop} (h : ∀ notes a, Q notes a → R notes a)
    {p : Program κ Answer ε α} {notes : ρ} (hp : M.Obeys Q notes p) : M.Obeys R notes p := by
  induction p generalizing notes with
  | done value => exact h notes value hp
  | raised error => exact trivial
  | send command next ih =>
    exact ⟨hp.1, fun answer hanswer => ih answer (hp.2 answer hanswer)⟩

end Monitor

/-! ## Interleaved -/

/-- Programs that run at the same time, each with its notes. -/
structure Processes (σ κ : Type) (Answer : κ → Type) (ε α ρ : Type) where
  state : σ
  running : Dict Nat (Program κ Answer ε α × ρ)

namespace Processes

variable {σ κ : Type} {Answer : κ → Type} {ε α ρ : Type}

/-- A step: a process begins, or sends its next command. -/
inductive Step (κ : Type) (Answer : κ → Type) (ε α : Type) where
  | start (process : Nat) (program : Program κ Answer ε α)
  | next (process : Nat)

section

variable (exec : (command : κ) → σ → Answer command × σ) (M : Monitor κ Answer ρ) (empty : ρ)

/-- One step; a process that was there under the same number is gone. -/
def step (processes : Processes σ κ Answer ε α ρ) : Step κ Answer ε α → Processes σ κ Answer ε α ρ
  | .start process program =>
      { processes with running := processes.running.set process (program, empty) }
  | .next process =>
      match processes.running.get? process with
      | some (.send command next, notes) =>
          let result := exec command processes.state
          { state := result.2
            running :=
              processes.running.set process (next result.1, M.note notes command result.1) }
      | _ => processes

/-- The command that a step sends, with the notes of the process that sends it. -/
def sent (processes : Processes σ κ Answer ε α ρ) : Step κ Answer ε α → Option (κ × ρ)
  | .start _ _ => none
  | .next process =>
      match processes.running.get? process with
      | some (.send command _, notes) => some (command, notes)
      | _ => none

variable {exec M empty} {processes : Processes σ κ Answer ε α ρ} (exec M empty)
  {step : Step κ Answer ε α} {notes : ρ}

/-- A step that sends a command changes the state as the command does. -/
theorem state_of_sent {command : κ} (h : processes.sent step = some (command, notes)) :
    (processes.step exec M empty step).state = (exec command processes.state).2 := by
  cases step with
  | start process program => cases h
  | next process =>
    simp only [sent] at h
    split at h
    · rename_i hrunning
      cases h
      simp only [Processes.step, hrunning]
    · cases h

/-- Any other leaves it. -/
theorem state_of_not_sent (h : processes.sent step = none) :
    (processes.step exec M empty step).state = processes.state := by
  cases step with
  | start process program => rfl
  | next process =>
    simp only [sent] at h
    split at h
    · cases h
    · simp only [Processes.step]

variable {exec M empty}

/-- Every process obeys the monitor from here on. -/
def Monitored (M : Monitor κ Answer ρ) (processes : Processes σ κ Answer ε α ρ) : Prop :=
  ∀ process program notes, processes.running.get? process = some (program, notes) →
    M.Obeys (fun _ _ => True) notes program

/-- Processes that obey the monitor go on to do so, if the server answers as expected. -/
theorem monitored_step (h : processes.Monitored M)
    (hstart : ∀ process program, step = .start process program →
      M.Obeys (fun _ _ => True) empty program)
    (hpossible : ∀ command, M.possible command (exec command processes.state).1) :
    (processes.step exec M empty step).Monitored M := by
  cases step with
  | start process program =>
    intro process' program' notes hget
    rcases Dict.get?_set_cases hget with ⟨_, hnew⟩ | ⟨_, hold⟩
    · cases hnew
      exact hstart process program rfl
    · exact h process' program' notes hold
  | next process =>
    simp only [Processes.step]
    split
    · rename_i command next notes hrunning
      intro process' program' notes' hget
      rcases Dict.get?_set_cases hget with ⟨_, hnew⟩ | ⟨_, hold⟩
      · cases hnew
        exact (h process _ notes hrunning).2 _ (hpossible command)
      · exact h process' program' notes' hold
    · exact h

/-- What a process sends, its notes allow. -/
theorem allowed_of_sent (h : processes.Monitored M) {command : κ}
    (hsent : processes.sent step = some (command, notes)) : M.allowed notes command := by
  cases step with
  | start process program => cases hsent
  | next process =>
    simp only [sent] at hsent
    split at hsent
    · rename_i command' next notes' hrunning
      cases hsent
      exact (h process _ notes hrunning).1
    · cases hsent

end

end Processes

end DimooRun.Foundation
