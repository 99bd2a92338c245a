/-
  Identity/Lockout.lean --- logins with wrong passwords.

  The fifth wrong password in a row locks the operator for a quarter of an hour. The count
  is not reset when the lock is over, so every further wrong password locks again: from the
  fifth on, passwords are compared at most once in a quarter of an hour, until a login
  succeeds.
-/
import DimooRun.Identity.SessionRuns

set_option autoImplicit false

namespace DimooRun.Identity.Cluster

open Foundation ConsoleService ConsoleDb

/-- A record of a run. -/
abbrev SessionEntry : Type := Entry Cluster SessionCall SessionReply

/-- `timedelta(minutes=15)`. -/
def lockTime : Instant := 15 * 60 * 1000000

/-- The password was wrong: no session is issued. -/
def Wrong (e : SessionEntry) : Prop := e.reply = .session (.ok none)

section

variable (hashing : Hashing) (settings : ConsoleSettings)

/-- The operator whose password a call compares, if it gets so far. -/
def compares (c : Cluster) (call : SessionCall) : Option Nat :=
  match call.request with
  | .login email _ _ salt =>
      match c.db.ensureBootstrapOperator hashing settings salt with
      | .error _ => none
      | .ok db => (loginCredential call.now email db).map Prod.fst
  | _ => none

/-- The comparisons of the passwords of one operator. -/
def comparisons (operatorId : Nat) (history : List SessionEntry) : List SessionEntry :=
  history.filter fun e => compares hashing settings e.before e.call = some operatorId

/-- Logins, with fresh tokens, and password changes. -/
def LogsIn (c : Cluster) (call : SessionCall) : Prop :=
  match call.request with
  | .login .. => DrawsFresh hashing c call
  | .changePassword .. => True
  | _ => False

end

/-! ## What is let through -/

/-- The comparison after a streak of wrong passwords comes a quarter of an hour after the fifth
of the streak, and after every later one. -/
def Spaced (l : List SessionEntry) : Prop :=
  ∀ earlier streak e later, l = earlier ++ (streak ++ e :: later) →
    (∀ wrong ∈ streak, Wrong wrong) → ∀ (i : Nat) wrong, 4 ≤ i → streak[i]? = some wrong →
      wrong.call.now + lockTime ≤ e.call.now

/-- What a credential says: the count, and until when the operator is locked. -/
abbrev Standing : Type := Nat × Option Instant

/-- A wrong password at a time. -/
def Standing.wrong (st : Standing) (now : Instant) : Standing :=
  (st.1 + 1, if st.1 + 1 ≥ 5 then some (now + lockTime) else st.2)

/-- Comparisons that are let through, from a standing on: each comes after the lock. -/
def LetThrough (st : Standing) : List SessionEntry → Prop
  | [] => True
  | e :: rest =>
      (∀ lockedUntil, st.2 = some lockedUntil → lockedUntil ≤ e.call.now) ∧
        ∃ st', LetThrough st' rest ∧ (Wrong e → st' = Standing.wrong st e.call.now)

variable {st : Standing}

theorem LetThrough.drop (earlier : List SessionEntry) {l : List SessionEntry} :
    ∀ {st}, LetThrough st (earlier ++ l) → ∃ st', LetThrough st' l := by
  induction earlier with
  | nil => exact fun h => ⟨_, h⟩
  | cons e earlier ih => exact fun ⟨_, _, h, _⟩ => ih h

theorem LetThrough.streak {e : SessionEntry} {later : List SessionEntry}
    (streak : List SessionEntry) :
    ∀ {st} (i : Nat) (wrong : SessionEntry), LetThrough st (streak ++ e :: later) →
      (∀ wrong ∈ streak, Wrong wrong) → 4 ≤ st.1 + i → streak[i]? = some wrong →
        wrong.call.now + lockTime ≤ e.call.now := by
  induction streak with
  | nil =>
    intro st i wrong _ _ _ hget
    cases hget
  | cons first streak ih =>
    intro st i wrong h hwrong hcount hget
    obtain ⟨_, _, hrest, hnext⟩ := h
    obtain rfl := hnext (hwrong first List.mem_cons_self)
    have hwrong' : ∀ wrong ∈ streak, Wrong wrong := fun w hw => hwrong w (List.mem_cons_of_mem _ hw)
    have hcount' : (Standing.wrong st first.call.now).1 = st.1 + 1 := rfl
    cases i with
    | succ i => exact ih i wrong hrest hwrong' (by omega) hget
    | zero =>
      -- the lock of this one is over before the next, and the next locks again
      cases hget
      have hlock : (Standing.wrong st first.call.now).2 = some (first.call.now + lockTime) :=
        if_pos (by omega)
      cases streak with
      | nil => exact hrest.1 _ hlock
      | cons next streak =>
        have hlater := ih 0 next hrest hwrong' (by omega) rfl
        exact (hrest.1 _ hlock).trans ((Int.le_add_of_nonneg_right (by decide)).trans hlater)

theorem LetThrough.spaced {l : List SessionEntry} (h : LetThrough st l) : Spaced l := by
  rintro earlier streak e later rfl hwrong i wrong hi hget
  obtain ⟨_, h⟩ := h.drop
  exact h.streak streak i wrong hwrong (by omega) hget

/-! ## What a call does -/

/-- What a credential says. -/
def standingOf (credential : Credential) : Standing :=
  (credential.failedLoginCount, credential.lockedUntil)

/-- The standing of an operator. -/
def standing (db : ConsoleDb) (operatorId : Nat) : Standing :=
  ((db.credentials.get? operatorId).map standingOf).getD (0, none)

section

variable {hashing : Hashing} {settings : ConsoleSettings} {c : Cluster} {call : SessionCall}
  {db db' : ConsoleDb} {salt email : String} {operatorId : Nat} {operator : ConsoleOperatorRow}
  {now : Instant}

/-- The bootstrap operator, if it is made, is a new one. -/
theorem credentials_ensureBootstrapOperator
    (h : db.ensureBootstrapOperator hashing settings salt = .ok db')
    (hget : db.operators.get? operatorId = some operator) :
    db'.credentials.get? operatorId = db.credentials.get? operatorId := by
  rcases ensureBootstrapOperator_cases h with ⟨_, hfound⟩ | ⟨newId, hmade⟩
  · rw [hfound.credentials]
  · exact hmade.credentials operatorId (hmade.new operatorId operator hget)

theorem loginCredential_eq_some {credential : Credential}
    (h : loginCredential now email db = some (operatorId, credential)) :
    (∃ operator, db.operators.get? operatorId = some operator) ∧
      db.credentials.get? operatorId = some credential ∧
      ∀ lockedUntil, credential.lockedUntil = some lockedUntil → lockedUntil ≤ now := by
  unfold loginCredential at h
  split at h
  · cases h
  · rename_i operator hfind
    split at h
    · cases h
    · split at h
      · cases h
      · rename_i hcredential
        split at h
        · cases h
        · rename_i hopen
          cases h
          refine ⟨⟨operator, (Table.find?_eq_some hfind).1⟩, hcredential, fun _ hlock => ?_⟩
          simpa [Credential.isLocked, hlock] using hopen

/-- A password change leaves the count and the lock alone. -/
theorem standing_changePassword (s : ConsoleService) (change : PasswordChange) (id : Nat)
    (hget : s.db.operators.get? operatorId = some operator) :
    standing (s.changePassword hashing settings now id change).2.db operatorId =
      standing s.db operatorId := by
  unfold changePassword afterBootstrap
  split
  · rfl
  · rename_i db hensure
    have hkept : standing db operatorId = standing s.db operatorId := by
      unfold standing
      rw [credentials_ensureBootstrapOperator hensure hget]
    dsimp only
    split
    · exact hkept
    · split
      · exact hkept
      · rename_i credential hcredential
        split
        · exact hkept
        · rw [← hkept]
          show (Option.map _ ((db.credentials.set id _).get? operatorId)).getD _ = _
          unfold standing
          rw [Dict.get?_set]
          split
          · rename_i hid
            rw [hid, hcredential]
            rfl
          · rfl

/-- What a login does to the credentials after `ensure_bootstrap_operator`. -/
inductive LoginDone (now : Instant) (email : String) (db : ConsoleDb) :
    Option IssuedSession → Dict Nat Credential → Prop where
  | skipped (hlogin : loginCredential now email db = none) :
      LoginDone now email db none db.credentials
  | wrong {operatorId : Nat} {credential : Credential}
      (hlogin : loginCredential now email db = some (operatorId, credential)) :
      LoginDone now email db none (db.credentials.set operatorId
        { credential with
          failedLoginCount := credential.failedLoginCount + 1
          lockedUntil :=
            if credential.failedLoginCount + 1 ≥ 5 then some (now + lockTime)
            else credential.lockedUntil })
  | issued {credential : Credential} {session : IssuedSession}
      (hlogin : loginCredential now email db = some (session.operatorId, credential)) :
      LoginDone now email db (some session) (db.credentials.set session.operatorId
        { credential with failedLoginCount := 0, lockedUntil := none })

theorem exec_login (settings : ConsoleSettings) (process : Nat) (now : Instant)
    (email password salt : String) {token : String}
    (hfresh : c.db.sessions.find? (hashing.hashToken token) = none) :
    let r := exec hashing settings c ⟨process, now, .login email password token salt⟩
    (∃ e, c.db.ensureBootstrapOperator hashing settings salt = .error e ∧
        r.1 = .session (.error e) ∧ r.2.db = c.db) ∨
      ∃ db issued credentials, c.db.ensureBootstrapOperator hashing settings salt = .ok db ∧
        r.1 = .session (.ok issued) ∧ r.2.db.store = db.store ∧ r.2.db.credentials = credentials ∧
        LoginDone now email db issued credentials := by
  intro r
  dsimp only [r, exec, serve, service, authenticate, afterBootstrap]
  cases hensure : c.db.ensureBootstrapOperator hashing settings salt with
  | error e => exact .inl ⟨e, rfl, rfl, rfl⟩
  | ok db =>
    have hsessions : db.sessions = c.db.sessions := by
      rcases ensureBootstrapOperator_cases hensure with ⟨_, hfound⟩ | ⟨_, hmade⟩
      · exact hfound.sessions
      · exact hmade.sessions
    refine .inr ?_
    dsimp only
    cases hlogin : loginCredential now email db with
    | none => exact ⟨db, none, _, rfl, rfl, rfl, rfl, .skipped hlogin⟩
    | some found =>
      dsimp only [checkPassword]
      by_cases hpassword : hashing.verifyPassword password found.2.passwordHash
      · rw [if_pos hpassword]
        dsimp only [openSession]
        rw [dif_pos (hsessions ▸ hfresh)]
        exact ⟨db, some _, _, rfl, rfl, rfl, rfl, .issued hlogin⟩
      · rw [if_neg hpassword]
        exact ⟨db, none, _, rfl, rfl, rfl, rfl, .wrong hlogin⟩

/-- A call that compares the password of an operator finds it unlocked, counts it if it is wrong,
and no other call changes the count or the lock. -/
theorem standing_exec (settings : ConsoleSettings) (hcall : LogsIn hashing c call)
    (operatorId : Nat) :
    (compares hashing settings c call = some operatorId → ∃ st,
      (∀ operator, c.db.operators.get? operatorId = some operator → standing c.db operatorId = st) ∧
      (∀ lockedUntil, st.2 = some lockedUntil → lockedUntil ≤ call.now) ∧
      (∃ operator, (exec hashing settings c call).2.db.operators.get? operatorId = some operator) ∧
      (Wrong (entry (exec hashing settings) c call) →
        standing (exec hashing settings c call).2.db operatorId = Standing.wrong st call.now)) ∧
    (compares hashing settings c call ≠ some operatorId →
      ∀ operator, c.db.operators.get? operatorId = some operator →
        standing (exec hashing settings c call).2.db operatorId = standing c.db operatorId) := by
  obtain ⟨process, now, request⟩ := call
  cases request with
  | changePassword id change =>
    refine ⟨fun h => (nomatch h), fun _ operator hget => ?_⟩
    dsimp only [exec, serve]
    exact standing_changePassword (c.service process) change id hget
  | login email password token salt =>
    dsimp only [compares, entry]
    rcases exec_login settings process now email password salt hcall with
      ⟨e, hensure, hreply, hdb⟩ | ⟨db, issued, credentials, hensure, hreply, hstore, hcred, hdone⟩
    · rw [hensure, hdb]
      exact ⟨fun h => (nomatch h), fun _ _ _ => rfl⟩
    · unfold standing ConsoleDb.operators
      rw [hensure, hreply, hstore, hcred]
      dsimp only
      refine ⟨fun hcompares => ?_, fun hother operator hget => ?_⟩
      · obtain ⟨⟨id, credential⟩, hlogin, rfl⟩ := Option.map_eq_some_iff.mp hcompares
        obtain ⟨hoperator, hcredential, hopen⟩ := loginCredential_eq_some hlogin
        refine ⟨standingOf credential, fun operator hget => ?_, hopen, hoperator, fun hwrong => ?_⟩
        · rw [← credentials_ensureBootstrapOperator hensure hget, hcredential]
          rfl
        · cases hwrong
          cases hdone with
          | skipped hnone => cases hnone.symm.trans hlogin
          | wrong hlogin' =>
            cases hlogin.symm.trans hlogin'
            rw [Dict.get?_set_self]
            rfl
      · have hkept := credentials_ensureBootstrapOperator hensure hget
        have hne : ∀ id credential, loginCredential now email db = some (id, credential) →
            operatorId ≠ id := by
          rintro id credential hlogin rfl
          exact hother (by rw [hlogin]; rfl)
        cases hdone with
        | skipped _ => rw [hkept]
        | wrong hlogin | issued hlogin => rw [Dict.get?_set_ne _ _ (hne _ _ hlogin), hkept]
  | _ => exact hcall.elim

end

/-! ## Runs -/

section

variable (hashing : Hashing) (settings : ConsoleSettings)

/-- The comparisons of a run are let through from the standing of the operator on. -/
theorem letThrough_comparisons (operatorId : Nat) (calls : List SessionCall) :
    ∀ c, Admitted (exec hashing settings) (LogsIn hashing) c calls → ∃ st,
      (∀ operator, c.db.operators.get? operatorId = some operator → standing c.db operatorId = st) ∧
      LetThrough st
        (comparisons hashing settings operatorId (trace (exec hashing settings) c calls)) := by
  induction calls with
  | nil => exact fun c _ => ⟨standing c.db operatorId, fun _ _ => rfl, trivial⟩
  | cons call calls ih =>
    intro c hcalls
    obtain ⟨hcompared, hother⟩ := standing_exec settings hcalls.1 operatorId
    obtain ⟨st', hst', hrest⟩ := ih _ hcalls.2
    by_cases hcompares : compares hashing settings c call = some operatorId
    · obtain ⟨st, hst, hopen, ⟨operator, hget⟩, hwrong⟩ := hcompared hcompares
      refine ⟨st, hst, ?_⟩
      simp only [comparisons, trace, List.filter_cons, entry, hcompares, decide_true, if_true]
      exact ⟨hopen, st', hrest, fun h => (hst' operator hget).symm.trans (hwrong h)⟩
    · refine ⟨st', fun operator hget => ?_, ?_⟩
      · obtain ⟨operator', hget', _⟩ := (step_exec hashing settings c call).operators.old _ _ hget
        exact (hother hcompares operator hget).symm.trans (hst' operator' hget')
      · simp only [comparisons, trace, List.filter_cons, entry, hcompares, decide_false,
          Bool.false_eq_true, if_false]
        exact hrest

/-- In a run of logins and password changes no session is issued to an operator that is locked,
and the comparisons of the passwords of each operator are spaced. -/
theorem logins_locked_out (db : ConsoleDb) (calls : List SessionCall)
    (hcalls : Admitted (exec hashing settings) (LogsIn hashing) (started db) calls) :
    (∀ e ∈ trace (exec hashing settings) (started db) calls, ∀ issued operator credential,
      e.reply = .session (.ok (some issued)) →
        e.before.db.operators.get? issued.operatorId = some operator →
        e.before.db.credentials.get? issued.operatorId = some credential →
          Credential.isLocked credential e.call.now = false) ∧
      ∀ operatorId, Spaced (comparisons hashing settings operatorId
        (trace (exec hashing settings) (started db) calls)) := by
  refine ⟨forall_mem_trace _ (I := fun _ => True) ?_ calls _ trivial hcalls, fun operatorId => ?_⟩
  · refine fun c call hcall _ => ⟨fun issued operator credential hreply hget hcredential => ?_,
      trivial⟩
    obtain ⟨process, now, request⟩ := call
    cases request with
    | login email password token salt =>
      rcases exec_login settings process now email password salt hcall with
        ⟨e, _, herror, _⟩ | ⟨db, _, _, hensure, hok, _, _, hdone⟩
      · cases herror.symm.trans hreply
      · cases hok.symm.trans hreply
        cases hdone with
        | issued hlogin =>
          obtain ⟨_, hfound, hopen⟩ := loginCredential_eq_some hlogin
          rw [credentials_ensureBootstrapOperator hensure hget] at hfound
          cases hfound.symm.trans hcredential
          unfold Credential.isLocked
          split
          · rfl
          · rename_i lockedUntil hlock
            exact decide_eq_false (Int.not_lt.mpr (hopen lockedUntil hlock))
    | _ => cases hreply
  · obtain ⟨_, _, h⟩ := letThrough_comparisons hashing settings operatorId calls (started db) hcalls
    exact h.spaced

/-- Five wrong passwords, a login while the operator is locked, and one after. -/
theorem logins_locked_out_wrong :
    let calls : List SessionCall := ["a", "b", "c", "d", "e", "f"].zipIdx.map fun (token, now) =>
      ⟨0, now, .login "admin@local.dimoorun" "wrong" token "salt"⟩
    let history := trace (exec plainHashing plainSettings) (started fresh) calls
    Admitted (exec plainHashing plainSettings) (LogsIn plainHashing) (started fresh) calls ∧
      (comparisons plainHashing plainSettings 1 history).length = 5 ∧
      Spaced (comparisons plainHashing plainSettings 1 history) := by
  intro calls history
  have hcalls : Admitted (exec plainHashing plainSettings) (LogsIn plainHashing) (started fresh)
      calls := ⟨rfl, rfl, rfl, rfl, rfl, rfl, trivial⟩
  exact ⟨hcalls, by decide +kernel, (logins_locked_out _ _ fresh calls hcalls).2 1⟩

end

end DimooRun.Identity.Cluster
