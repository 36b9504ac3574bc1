/-
Programs that issue requests, and a proof outline for threads that run them side by side.

A program is a tree of requests: it returns, fails with an error, or issues a request and goes on
with the answer.  Nothing is said about what a request does until a machine gives it a meaning on
a shared state and on the local state of the thread that issues it.  Each request is one atomic
step, so between two requests of one thread any number of steps of other threads may happen.

An outline attaches one assertion to every request, to be read as: when this request is the next
one of a thread, the assertion holds of that thread's local state and of the shared state.  The
rules below build such an outline for a program from the outlines of its parts, and
`Programs.System.exec_outline` carries it along every run: an assertion holds as long as the
thread's own steps establish it and the steps of the other threads keep it.

Main definitions:

* `Programs.Prog` — programs, with `Programs.Prog.call` and `Programs.Prog.attempt`;
* `Programs.Prog.Requests` — every request of a program satisfies a predicate;
* `Programs.Prog.wp` — every request of a program fits what its answers have told it;
* `Programs.Prog.Returns` — the requests and answers of a run that returns;
* `Programs.Prog.ask`, `Programs.Prog.fallible` — requests that are answered with an error;
* `Programs.Prog.perform` — the run in which some requests fail;
* `Programs.Outline`, `Programs.Outline.Triple` — assertions at requests, and what a program
  establishes under them;
* `Programs.System`, `Programs.Config`, `Programs.Label` — threads over one shared state.

Main results:

* `Programs.Outline.triple_bind`, `Programs.Outline.triple_attempt`,
  `Programs.Outline.triple_call`, `Programs.Outline.triple_of_requests` — the rules of the outline;
* `Programs.System.exec_outline` — **soundness**: along every run whose steps meet a condition, the
  invariant holds and every thread is at a request whose assertion holds;
* `Programs.System.exec_shared` — a preorder that every step respects relates the ends of a run;
* `Programs.System.exec_wp` — what programs know by themselves holds in every run;
* `Programs.System.exec_known_meets`, `Programs.System.exec_known` — what threads learn about the
  shared state stays true.
-/

import Beampipe.Runs
import Mathlib.Logic.Function.Basic

set_option relaxedAutoImplicit false
set_option autoImplicit false

namespace Programs

/-! ### Programs -/

/-- A program over the requests `Req`: it returns, fails, or issues a request. -/
inductive Prog (Req : Type) (Resp : Req → Type) (ε α : Type) where
  | ret (a : α)
  | throw (e : ε)
  | req (r : Req) (k : Resp r → Prog Req Resp ε α)

namespace Prog

variable {Req : Type} {Resp : Req → Type} {ε α β : Type}

/-- Sequencing; an error ends the program. -/
def bind : Prog Req Resp ε α → (α → Prog Req Resp ε β) → Prog Req Resp ε β
  | ret a, f => f a
  | throw e, _ => throw e
  | req r k, f => req r fun v => (k v).bind f

instance : Monad (Prog Req Resp ε) where
  pure := ret
  bind := bind

/-- The error as a value. -/
def attempt : Prog Req Resp ε α → Prog Req Resp ε (Except ε α)
  | ret a => ret (.ok a)
  | throw e => ret (.error e)
  | req r k => req r fun v => (k v).attempt

/-- One request, returning its answer. -/
def call (r : Req) : Prog Req Resp ε (Resp r) := req r ret

/-- A computed result, or its error. -/
def ofExcept : Except ε α → Prog Req Resp ε α
  | .ok a => ret a
  | .error e => throw e

/-- The request a program issues next. -/
def next : Prog Req Resp ε α → Option Req
  | req r _ => some r
  | ret _ | throw _ => none

@[simp] theorem pure_eq (a : α) : (pure a : Prog Req Resp ε α) = ret a := rfl

@[simp] theorem ret_bind (a : α) (f : α → Prog Req Resp ε β) : ret a >>= f = f a := rfl

@[simp] theorem throw_bind (e : ε) (f : α → Prog Req Resp ε β) :
    (throw e : Prog Req Resp ε α) >>= f = throw e := rfl

@[simp] theorem req_bind (r : Req) (k : Resp r → Prog Req Resp ε α) (f : α → Prog Req Resp ε β) :
    req r k >>= f = req r fun v => k v >>= f := rfl

/-! ### The requests of a program -/

/-- Every request the program can ever issue satisfies `φ`. -/
def Requests (φ : Req → Prop) : Prog Req Resp ε α → Prop
  | ret _ => True
  | throw _ => True
  | req r k => φ r ∧ ∀ v, (k v).Requests φ

section Requests

variable {φ ψ : Req → Prop}

@[simp] theorem requests_ret (a : α) : (ret a : Prog Req Resp ε α).Requests φ := trivial

@[simp] theorem requests_throw (e : ε) : (throw e : Prog Req Resp ε α).Requests φ := trivial

@[simp] theorem requests_req (r : Req) (k : Resp r → Prog Req Resp ε α) :
    (req r k).Requests φ ↔ φ r ∧ ∀ v, (k v).Requests φ := Iff.rfl

@[simp] theorem requests_call (r : Req) :
    (call r : Prog Req Resp ε (Resp r)).Requests φ ↔ φ r := by
  simp [call]

@[simp] theorem requests_ofExcept (x : Except ε α) :
    (ofExcept x : Prog Req Resp ε α).Requests φ := by
  cases x <;> trivial

theorem requests_bind {p : Prog Req Resp ε α} {f : α → Prog Req Resp ε β} (hp : p.Requests φ)
    (hf : ∀ a, (f a).Requests φ) : (p >>= f).Requests φ := by
  induction p with
  | ret a => exact hf a
  | throw e => trivial
  | req r k ih => exact ⟨hp.1, fun v => ih v (hp.2 v)⟩

theorem requests_attempt {p : Prog Req Resp ε α} (hp : p.Requests φ) :
    p.attempt.Requests φ := by
  induction p with
  | ret a => trivial
  | throw e => trivial
  | req r k ih => exact ⟨hp.1, fun v => ih v (hp.2 v)⟩

theorem Requests.mono {p : Prog Req Resp ε α} (hp : p.Requests φ) (h : ∀ r, φ r → ψ r) :
    p.Requests ψ := by
  induction p with
  | ret a => trivial
  | throw e => trivial
  | req r k ih => exact ⟨h r hp.1, fun v => ih v (hp.2 v)⟩

end Requests

/-! ### What a program knows by itself -/

section Wp

variable {S : Type} (next : S → (r : Req) → Resp r → S) (φ : S → Req → Prop)

/-- The program keeps a memory `S` of the answers it gets, and issues only requests that fit it; it
ends in `Q`, or in `E` with an error. -/
def wp (Q : α → S → Prop) (E : ε → S → Prop) : Prog Req Resp ε α → S → Prop
  | ret a, s => Q a s
  | throw e, s => E e s
  | req r k, s => φ s r ∧ ∀ v, (k v).wp Q E (next s r v)

variable {next φ} {Q Q' : α → S → Prop} {R : β → S → Prop} {E E' : ε → S → Prop} {K : S → Prop}

@[simp] theorem wp_ret {a : α} {s : S} :
    (ret a : Prog Req Resp ε α).wp next φ Q E s ↔ Q a s := Iff.rfl

@[simp] theorem wp_throw {e : ε} {s : S} :
    (throw e : Prog Req Resp ε α).wp next φ Q E s ↔ E e s := Iff.rfl

@[simp] theorem wp_req {r : Req} {k : Resp r → Prog Req Resp ε α} {s : S} :
    (req r k).wp next φ Q E s ↔ φ s r ∧ ∀ v, (k v).wp next φ Q E (next s r v) := Iff.rfl

theorem wp_mono {p : Prog Req Resp ε α} {s : S} (h : p.wp next φ Q E s)
    (hQ : ∀ a s, Q a s → Q' a s) (hE : ∀ e s, E e s → E' e s) : p.wp next φ Q' E' s := by
  induction p generalizing s with
  | ret a => exact hQ a s h
  | throw e => exact hE e s h
  | req r k ih => exact ⟨h.1, fun v => ih v (h.2 v)⟩

theorem wp_bind {p : Prog Req Resp ε β} {f : β → Prog Req Resp ε α} {s : S}
    (hp : p.wp next φ R E s) (hf : ∀ b s, R b s → (f b).wp next φ Q E s) :
    (p >>= f).wp next φ Q E s := by
  induction p generalizing s with
  | ret b => exact hf b s hp
  | throw e => exact hp
  | req r k ih => exact ⟨hp.1, fun v => ih v (hp.2 v)⟩

theorem wp_attempt {p : Prog Req Resp ε α} {Q : Except ε α → S → Prop} {s : S}
    (hp : p.wp next φ (fun a => Q (.ok a)) (fun e => Q (.error e)) s) :
    p.attempt.wp next φ Q E s := by
  induction p generalizing s with
  | ret a => exact hp
  | throw e => exact hp
  | req r k ih => exact ⟨hp.1, fun v => ih v (hp.2 v)⟩

/-- Requests that fit every memory with `K`, and keep it. -/
theorem wp_of_requests {ψ : Req → Prop} {p : Prog Req Resp ε α} {s : S} (hp : p.Requests ψ)
    (hfits : ∀ r s, ψ r → K s → φ s r) (hkeep : ∀ r v s, ψ r → K s → K (next s r v)) (hs : K s) :
    p.wp next φ (fun _ => K) (fun _ => K) s := by
  induction p generalizing s with
  | ret a => exact hs
  | throw e => exact hs
  | req r k ih => exact ⟨hfits r s hp.1 hs, fun v => ih v (hp.2 v) (hkeep r v s hp.1 hs)⟩

end Wp

/-! ### Runs that return -/

/-- The program issues these requests, gets these answers, and returns. -/
def Returns : Prog Req Resp ε α → List ((r : Req) × Resp r) → α → Prop
  | ret a, events, b => events = [] ∧ b = a
  | throw _, _, _ => False
  | req r k, events, b => ∃ v rest, events = ⟨r, v⟩ :: rest ∧ (k v).Returns rest b

section Returns

variable {events : List ((r : Req) × Resp r)}

@[simp] theorem returns_ret {a b : α} :
    (ret a : Prog Req Resp ε α).Returns events b ↔ events = [] ∧ b = a := Iff.rfl

@[simp] theorem returns_throw {e : ε} {b : α} :
    ¬ (throw e : Prog Req Resp ε α).Returns events b := fun h => h

theorem returns_req {r : Req} {k : Resp r → Prog Req Resp ε α} {b : α} :
    (req r k).Returns events b ↔ ∃ v rest, events = ⟨r, v⟩ :: rest ∧ (k v).Returns rest b := Iff.rfl

/-- One after the other. -/
theorem returns_bind {p : Prog Req Resp ε α} {f : α → Prog Req Resp ε β} {b : β} :
    (p >>= f).Returns events b ↔ ∃ before after a, events = before ++ after ∧
      p.Returns before a ∧ (f a).Returns after b := by
  induction p generalizing events with
  | ret a =>
      constructor
      · intro h
        exact ⟨[], events, a, rfl, ⟨rfl, rfl⟩, h⟩
      · rintro ⟨_, after, _, rfl, ⟨rfl, rfl⟩, h⟩
        exact h
  | throw e =>
      constructor
      · intro h
        exact h.elim
      · rintro ⟨before, after, a, -, h, -⟩
        exact h.elim
  | req r k ih =>
      rw [req_bind, returns_req]
      constructor
      · rintro ⟨v, rest, rfl, h⟩
        obtain ⟨before, after, a, rfl, hp, hf⟩ := (ih v).mp h
        exact ⟨⟨r, v⟩ :: before, after, a, rfl, ⟨v, before, rfl, hp⟩, hf⟩
      · rintro ⟨_, after, a, rfl, ⟨v, before, rfl, hp⟩, hf⟩
        exact ⟨v, before ++ after, rfl, (ih v).mpr ⟨before, after, a, rfl, hp, hf⟩⟩

/-- What a program ends in by itself, it ends in after the answers of a run that returns. -/
theorem wp_returns {S : Type} {next : S → (r : Req) → Resp r → S} {φ : S → Req → Prop}
    {Q : α → S → Prop} {E : ε → S → Prop} {p : Prog Req Resp ε α} {s : S} {a : α}
    (h : p.wp next φ Q E s) (hreturns : p.Returns events a) :
    Q a (events.foldl (fun s event => next s event.1 event.2) s) := by
  induction p generalizing s events with
  | ret b =>
      obtain ⟨rfl, rfl⟩ := hreturns
      exact h
  | throw e => exact hreturns.elim
  | req r k ih =>
      obtain ⟨v, rest, rfl, hrest⟩ := hreturns
      have hrun := ih v (h.2 v) hrest
      exact hrun

/-- The run under answers that depend on the request alone. -/
def run (answer : (r : Req) → Resp r) :
    Prog Req Resp ε α → List ((r : Req) × Resp r) × Except ε α
  | ret a => ([], .ok a)
  | throw e => ([], .error e)
  | req r k =>
      let (events, result) := (k (answer r)).run answer
      (⟨r, answer r⟩ :: events, result)

theorem returns_run {answer : (r : Req) → Resp r} {p : Prog Req Resp ε α} {a : α}
    (h : (p.run answer).2 = .ok a) : p.Returns (p.run answer).1 a := by
  induction p with
  | ret b => exact ⟨rfl, (Except.ok.inj h).symm⟩
  | throw e => cases h
  | req r k ih => exact ⟨answer r, _, rfl, ih (answer r) h⟩

end Returns

/-! ### Requests that are answered with an error -/

section Fallible

variable {A : Req → Type} {S σ : Type} {φ : S → Req → Prop}

/-- A request whose error ends the program. -/
def ask (r : Req) : Prog Req (fun r => Except ε (A r)) ε (A r) := call r >>= ofExcept

theorem wp_ofExcept {next : S → (r : Req) → Resp r → S} {x : Except ε α} {Q : α → S → Prop}
    {E : ε → S → Prop} {s : S} (hok : ∀ a, x = .ok a → Q a s) (herror : ∀ e, x = .error e → E e s) :
    (ofExcept x : Prog Req Resp ε α).wp next φ Q E s := by
  cases x with
  | error e => exact herror e rfl
  | ok a => exact hok a rfl

theorem wp_ask {next : S → (r : Req) → Except ε (A r) → S} {r : Req} {Q : A r → S → Prop}
    {E : ε → S → Prop} {s : S} (hfits : φ s r) (hok : ∀ a, Q a (next s r (.ok a)))
    (herror : ∀ e, E e (next s r (.error e))) : (ask r).wp next φ Q E s := by
  refine ⟨hfits, fun v => ?_⟩
  cases v with
  | error e => exact herror e
  | ok a => exact hok a

/-- A request that may fail.  An error does not say whether the request was carried out. -/
def fallible (failure : Option (ε × Bool)) (s : σ) (outcome : Except ε α × σ) : Except ε α × σ :=
  match failure with
  | none => outcome
  | some (e, carriedOut) => (.error e, if carriedOut then outcome.2 else s)

/-- A request that is answered was carried out. -/
theorem fallible_ok {failure : Option (ε × Bool)} {s : σ} {outcome : Except ε α × σ} {a : α}
    (h : (fallible failure s outcome).1 = .ok a) : fallible failure s outcome = outcome := by
  cases failure with
  | none => rfl
  | some failure => cases h

/-- The state is the one before, or the one after. -/
theorem fallible_state {failure : Option (ε × Bool)} {s : σ} {outcome : Except ε α × σ}
    {P : σ → Prop} (hs : P s) (houtcome : P outcome.2) : P (fallible failure s outcome).2 := by
  cases failure with
  | none => exact houtcome
  | some failure =>
      obtain ⟨e, carriedOut⟩ := failure
      cases carriedOut with
      | false => exact hs
      | true => exact houtcome

end Fallible

/-! ### Requests that fail -/

/-- The requests that a run issues under answers that depend on the request alone. -/
def requests (answer : (r : Req) → Resp r) (p : Prog Req Resp ε α) : List Req :=
  (p.run answer).1.map Sigma.fst

/-- The run in which some requests fail: the first one that does ends it with the error `failed`. -/
def perform (answer : (r : Req) → Resp r) (failed : ε) (fails : Req → Bool) :
    Prog Req Resp ε α → Except ε α
  | ret a => .ok a
  | throw e => .error e
  | req r k => if fails r then .error failed else (k (answer r)).perform answer failed fails

/-- A failing request is felt exactly when the run issues it. -/
theorem perform_eq (answer : (r : Req) → Resp r) (failed : ε) (fails : Req → Bool)
    (p : Prog Req Resp ε α) :
    p.perform answer failed fails =
      if (p.requests answer).any fails then .error failed else (p.run answer).2 := by
  induction p with
  | ret a => rfl
  | throw e => rfl
  | req r k ih =>
      have hrequests : (req r k).requests answer = r :: (k (answer r)).requests answer := rfl
      rw [perform, hrequests, List.any_cons, ih]
      cases fails r with
      | false => rfl
      | true => rfl

end Prog

/-! ### Outlines -/

/-- What requests do, and one assertion for each of them.  `perform` answers a request of the
thread `pid` from its local and the shared state under a choice that neither determines; `guard`
is what the condition of a run says about a thread's own step. -/
structure Outline (Req : Type) (Resp : Req → Type) (σ L ι : Type) where
  perform : ℕ → (r : Req) → ι → L → σ → Resp r × L × σ
  inv : σ → Prop
  assertion : ℕ → Req → L → σ → Prop
  guard : ℕ → Req → ι → L → σ → Prop

namespace Outline

variable {Req : Type} {Resp : Req → Type} {ε α β σ L ι : Type}
variable (o : Outline Req Resp σ L ι) (pid : ℕ)

/-- What holds where a program stands: the assertion of its next request, or the postcondition. -/
def Entry (Q : α → L → σ → Prop) (E : ε → L → σ → Prop) : Prog Req Resp ε α → L → σ → Prop
  | .ret a, l, s => Q a l s
  | .throw e, l, s => E e l s
  | .req r _, l, s => o.assertion pid r l s

/-- Every step of the program leads from the assertion of its request to the next one. -/
def Valid (Q : α → L → σ → Prop) (E : ε → L → σ → Prop) : Prog Req Resp ε α → Prop
  | .ret _ => True
  | .throw _ => True
  | .req r k =>
      (∀ i l s, o.inv s → o.assertion pid r l s → o.guard pid r i l s →
        o.inv (o.perform pid r i l s).2.2 →
        o.Entry pid Q E (k (o.perform pid r i l s).1) (o.perform pid r i l s).2.1
          (o.perform pid r i l s).2.2) ∧
      ∀ v, Valid Q E (k v)

/-- From `P`, the program runs under the outline and ends in `Q`, or in `E` with an error. -/
structure Triple (P : L → σ → Prop) (p : Prog Req Resp ε α) (Q : α → L → σ → Prop)
    (E : ε → L → σ → Prop) : Prop where
  valid : o.Valid pid Q E p
  entry : ∀ l s, o.inv s → P l s → o.Entry pid Q E p l s

variable {o pid} {P P' : L → σ → Prop} {Q Q' : α → L → σ → Prop} {R : β → L → σ → Prop}
  {E E' : ε → L → σ → Prop} {F : L → σ → Prop}

theorem triple_ret {a : α} (h : ∀ l s, o.inv s → P l s → Q a l s) :
    o.Triple pid P (.ret a : Prog Req Resp ε α) Q E := ⟨trivial, h⟩

theorem triple_throw {e : ε} (h : ∀ l s, o.inv s → P l s → E e l s) :
    o.Triple pid P (.throw e : Prog Req Resp ε α) Q E := ⟨trivial, h⟩

/-- One request: its assertion holds beforehand, and the step establishes the postcondition. -/
theorem triple_call {r : Req} {Q : Resp r → L → σ → Prop}
    (hentry : ∀ l s, o.inv s → P l s → o.assertion pid r l s)
    (hstep : ∀ i l s, o.inv s → o.assertion pid r l s → o.guard pid r i l s →
      o.inv (o.perform pid r i l s).2.2 →
      Q (o.perform pid r i l s).1 (o.perform pid r i l s).2.1 (o.perform pid r i l s).2.2) :
    o.Triple pid P (Prog.call r : Prog Req Resp ε (Resp r)) Q E :=
  ⟨⟨hstep, fun _ => trivial⟩, hentry⟩

theorem valid_bind {p : Prog Req Resp ε β} {f : β → Prog Req Resp ε α}
    (hp : o.Valid pid R E p) (hf : ∀ b, o.Triple pid (R b) (f b) Q E) :
    o.Valid pid Q E (p >>= f) ∧
      ∀ l s, o.inv s → o.Entry pid R E p l s → o.Entry pid Q E (p >>= f) l s := by
  induction p with
  | ret b => exact ⟨(hf b).valid, (hf b).entry⟩
  | throw e => exact ⟨trivial, fun _ _ _ h => h⟩
  | req r k ih =>
      refine ⟨⟨fun i l s hinv hassert hguard hinv' => ?_, fun v => (ih v (hp.2 v)).1⟩,
        fun _ _ _ h => h⟩
      exact (ih _ (hp.2 _)).2 _ _ hinv' (hp.1 i l s hinv hassert hguard hinv')

/-- Sequencing. -/
theorem triple_bind {p : Prog Req Resp ε β} {f : β → Prog Req Resp ε α}
    (hp : o.Triple pid P p R E) (hf : ∀ b, o.Triple pid (R b) (f b) Q E) :
    o.Triple pid P (p >>= f) Q E := by
  have hbind := valid_bind hp.valid hf
  exact ⟨hbind.1, fun l s hinv hP => hbind.2 l s hinv (hp.entry l s hinv hP)⟩

/-- A caught error is a result. -/
theorem triple_attempt {p : Prog Req Resp ε α} {Q : Except ε α → L → σ → Prop}
    (hp : o.Triple pid P p (fun a => Q (.ok a)) fun e => Q (.error e)) :
    o.Triple pid P p.attempt Q E' := by
  have hattempt : ∀ p : Prog Req Resp ε α,
      o.Valid pid (fun a => Q (.ok a)) (fun e => Q (.error e)) p →
      o.Valid pid Q E' p.attempt ∧ ∀ l s,
        o.Entry pid (fun a => Q (.ok a)) (fun e => Q (.error e)) p l s →
        o.Entry pid Q E' p.attempt l s := by
    intro p hvalid
    induction p with
    | ret a => exact ⟨trivial, fun _ _ h => h⟩
    | throw e => exact ⟨trivial, fun _ _ h => h⟩
    | req r k ih =>
        refine ⟨⟨fun i l s hinv hassert hguard hinv' => ?_, fun v => (ih v (hvalid.2 v)).1⟩,
          fun _ _ h => h⟩
        exact (ih _ (hvalid.2 _)).2 _ _ (hvalid.1 i l s hinv hassert hguard hinv')
  have h := hattempt p hp.valid
  exact ⟨h.1, fun l s hinv hP => h.2 l s (hp.entry l s hinv hP)⟩

/-- A stronger precondition. -/
theorem Triple.strengthen {p : Prog Req Resp ε α} (h : o.Triple pid F p Q E)
    (hP : ∀ l s, o.inv s → P l s → F l s) : o.Triple pid P p Q E :=
  ⟨h.valid, fun l s hinv hentry => h.entry l s hinv (hP l s hinv hentry)⟩

/-- A stronger precondition and weaker postconditions. -/
theorem Triple.conseq {p : Prog Req Resp ε α} (h : o.Triple pid P' p Q' E')
    (hP : ∀ l s, o.inv s → P l s → P' l s) (hQ : ∀ a l s, o.inv s → Q' a l s → Q a l s)
    (hE : ∀ e l s, o.inv s → E' e l s → E e l s) : o.Triple pid P p Q E := by
  have hentry : ∀ p : Prog Req Resp ε α, ∀ l s, o.inv s → o.Entry pid Q' E' p l s →
      o.Entry pid Q E p l s := by
    intro p l s hinv h
    cases p with
    | ret a => exact hQ a l s hinv h
    | throw e => exact hE e l s hinv h
    | req r k => exact h
  have hvalid : ∀ p : Prog Req Resp ε α, o.Valid pid Q' E' p → o.Valid pid Q E p := by
    intro p hp
    induction p with
    | ret a => trivial
    | throw e => trivial
    | req r k ih =>
        refine ⟨fun i l s hinv hassert hguard hinv' => ?_, fun v => ih v (hp.2 v)⟩
        exact hentry _ _ _ hinv' (hp.1 i l s hinv hassert hguard hinv')
  exact ⟨hvalid p h.valid, fun l s hinv hPl => hentry p l s hinv (h.entry l s hinv (hP l s hinv hPl))⟩

/-- A property that implies the assertion of every request of a program, and that every one of
these requests keeps, holds throughout. -/
theorem triple_of_requests {φ : Req → Prop} {p : Prog Req Resp ε α} (hp : p.Requests φ)
    (hentry : ∀ r l s, φ r → o.inv s → F l s → o.assertion pid r l s)
    (hstep : ∀ r i l s, φ r → o.inv s → o.assertion pid r l s → o.guard pid r i l s →
      o.inv (o.perform pid r i l s).2.2 →
      F (o.perform pid r i l s).2.1 (o.perform pid r i l s).2.2) :
    o.Triple pid F p (fun _ => F) fun _ => F := by
  have hF : ∀ p : Prog Req Resp ε α, p.Requests φ → ∀ l s, o.inv s → F l s →
      o.Entry pid (fun _ => F) (fun _ => F) p l s := by
    intro p hp l s hinv h
    cases p with
    | ret a => exact h
    | throw e => exact h
    | req r k => exact hentry r l s hp.1 hinv h
  have hvalid : ∀ p : Prog Req Resp ε α, p.Requests φ →
      o.Valid pid (fun _ => F) (fun _ => F) p := by
    intro p hp
    induction p with
    | ret a => trivial
    | throw e => trivial
    | req r k ih =>
        refine ⟨fun i l s hinv hassert hguard hinv' => ?_, fun v => ih v (hp.2 v)⟩
        exact hF _ (hp.2 _) _ _ hinv' (hstep r i l s hp.1 hinv hassert hguard hinv')
  exact ⟨hvalid p hp, fun l s hinv h => hF p hp l s hinv h⟩

end Outline

/-! ### Threads over one shared state -/

section Threads

variable {Req : Type} {Resp : Req → Type} {ε α σ L ι entry env : Type}

/-- A thread: its local state and the rest of its program. -/
structure Thread (Req : Type) (Resp : Req → Type) (ε α L : Type) where
  loc : L
  code : Prog Req Resp ε α

/-- The shared state and the threads. -/
structure Config (Req : Type) (Resp : Req → Type) (ε α σ L : Type) where
  shared : σ
  threads : ℕ → Option (Thread Req Resp ε α L)

/-- One step of the system: a thread starts, issues its next request, or dies, or the surroundings
change the shared state. -/
inductive Label (ι entry env : Type) where
  | start (pid : ℕ) (e : entry)
  | run (pid : ℕ) (i : ι)
  | crash (pid : ℕ)
  | environment (e : env)

/-- The programs that can be started, the meaning of their requests and the other steps. -/
structure System (Req : Type) (Resp : Req → Type) (ε α σ L ι entry env : Type) where
  perform : ℕ → (r : Req) → ι → L → σ → Resp r × L × σ
  code : entry → Prog Req Resp ε α
  loc : L
  environment : env → σ → σ

namespace System

variable (m : System Req Resp ε α σ L ι entry env)

/-- One step.  A thread that has ended, or was never started, does nothing. -/
def step (c : Config Req Resp ε α σ L) : Label ι entry env → Config Req Resp ε α σ L
  | .start pid e =>
      match c.threads pid with
      | none => { c with threads := Function.update c.threads pid (some ⟨m.loc, m.code e⟩) }
      | some _ => c
  | .run pid i =>
      match c.threads pid with
      | some ⟨l, .req r k⟩ =>
          let answer := m.perform pid r i l c.shared
          { shared := answer.2.2
            threads := Function.update c.threads pid (some ⟨answer.2.1, k answer.1⟩) }
      | _ => c
  | .crash pid => { c with threads := Function.update c.threads pid none }
  | .environment e => { c with shared := m.environment e c.shared }

/-- The configuration without threads. -/
def init (s : σ) : Config Req Resp ε α σ L := ⟨s, fun _ => none⟩

variable (o : Outline Req Resp σ L ι) (Q : ℕ → α → L → Prop) (E : ℕ → ε → L → Prop)

/-- The invariant holds and every thread stands at an assertion that holds. -/
structure Outlined (c : Config Req Resp ε α σ L) : Prop where
  inv : o.inv c.shared
  valid : ∀ pid t, c.threads pid = some t →
    o.Valid pid (fun a l _ => Q pid a l) (fun e l _ => E pid e l) t.code
  entry : ∀ pid t, c.threads pid = some t →
    o.Entry pid (fun a l _ => Q pid a l) (fun e l _ => E pid e l) t.code t.loc c.shared

variable {m o Q E} {C : Config Req Resp ε α σ L → Label ι entry env → Prop}

/-- The obligations of an outline for a system: its programs run under it, its invariant is kept,
and no step of one thread or of the surroundings breaks the assertion of another thread. -/
structure Obligations (m : System Req Resp ε α σ L ι entry env)
    (o : Outline Req Resp σ L ι) (Q : ℕ → α → L → Prop) (E : ℕ → ε → L → Prop)
    (C : Config Req Resp ε α σ L → Label ι entry env → Prop) : Prop where
  perform_eq : o.perform = m.perform
  code : ∀ pid e, o.Triple pid (fun l _ => l = m.loc) (m.code e) (fun a l _ => Q pid a l)
    fun e l _ => E pid e l
  guard : ∀ c pid i l r k, C c (.run pid i) → c.threads pid = some ⟨l, .req r k⟩ →
    o.guard pid r i l c.shared
  inv_step : ∀ pid r i l s, o.inv s → o.assertion pid r l s → o.guard pid r i l s →
    o.inv (m.perform pid r i l s).2.2
  inv_environment : ∀ e s, o.inv s → o.inv (m.environment e s)
  stable : ∀ c pid i l r k pid' l' r' k', C c (.run pid i) →
    c.threads pid = some ⟨l, .req r k⟩ → c.threads pid' = some ⟨l', .req r' k'⟩ → pid' ≠ pid →
    o.inv c.shared → o.assertion pid r l c.shared → o.assertion pid' r' l' c.shared →
    o.assertion pid' r' l' (m.perform pid r i l c.shared).2.2
  stable_environment : ∀ e pid r l s, o.inv s → o.assertion pid r l s →
    o.assertion pid r l (m.environment e s)

/-- What holds of the thread that is set and of all others holds of every thread. -/
theorem threads_update {T : Type} {P : ℕ → T → Prop} {threads : ℕ → Option T} {pid : ℕ}
    {new : Option T} (hnew : ∀ t, new = some t → P pid t)
    (hothers : ∀ q t, q ≠ pid → threads q = some t → P q t) :
    ∀ q t, Function.update threads pid new q = some t → P q t := by
  intro q t ht
  rcases eq_or_ne q pid with rfl | hne
  · rw [Function.update_self] at ht
    exact hnew t ht
  · rw [Function.update_of_ne hne] at ht
    exact hothers q t hne ht

theorem Outlined.step {c : Config Req Resp ε α σ L} {lab : Label ι entry env}
    (h : Obligations m o Q E C) (hc : Outlined o Q E c) (hC : C c lab) :
    Outlined o Q E (m.step c lab) := by
  cases lab with
  | start pid e =>
      cases hpid : c.threads pid with
      | some t => simpa only [System.step, hpid] using hc
      | none =>
          simp only [System.step, hpid]
          refine ⟨hc.inv, threads_update (fun t ht => ?_) fun q t _ => hc.valid q t,
            threads_update (fun t ht => ?_) fun q t _ => hc.entry q t⟩
          · cases ht
            exact (h.code pid e).valid
          · cases ht
            exact (h.code pid e).entry _ _ hc.inv rfl
  | crash pid =>
      exact ⟨hc.inv, threads_update (fun t ht => by cases ht) fun q t _ => hc.valid q t,
        threads_update (fun t ht => by cases ht) fun q t _ => hc.entry q t⟩
  | environment e =>
      refine ⟨h.inv_environment e _ hc.inv, hc.valid, fun q t ht => ?_⟩
      have hentry := hc.entry q t ht
      obtain ⟨l, code⟩ := t
      cases code with
      | ret a => exact hentry
      | throw e => exact hentry
      | req r k => exact h.stable_environment e q r l _ hc.inv hentry
  | run pid i =>
      cases hpid : c.threads pid with
      | none => simpa only [System.step, hpid] using hc
      | some t =>
          obtain ⟨l, code⟩ := t
          cases code with
          | ret a => simpa only [System.step, hpid] using hc
          | throw e => simpa only [System.step, hpid] using hc
          | req r k =>
              have hassert : o.assertion pid r l c.shared := hc.entry pid _ hpid
              have hguard := h.guard c pid i l r k hC hpid
              have hinv := h.inv_step pid r i l c.shared hc.inv hassert hguard
              have hvalid := hc.valid pid _ hpid
              simp only [System.step, hpid]
              refine ⟨hinv, threads_update (fun t ht => ?_) fun q t _ => hc.valid q t,
                threads_update (fun t ht => ?_) fun q t hne ht => ?_⟩
              · cases ht
                exact hvalid.2 _
              · cases ht
                have hstep := hvalid.1 i l c.shared hc.inv hassert hguard
                rw [h.perform_eq] at hstep
                exact hstep hinv
              · -- the other threads are where they were; only their assertions may be affected
                have hentry := hc.entry q t ht
                obtain ⟨l', code'⟩ := t
                cases code' with
                | ret a => exact hentry
                | throw e => exact hentry
                | req r' k' =>
                    exact h.stable c pid i l r k q l' r' k' hC hpid ht hne hc.inv hassert hentry

/-- **Soundness of an outline.**  From a shared state with the invariant, every run whose steps
meet the condition keeps the invariant and every thread at an assertion that holds. -/
theorem exec_outline (h : Obligations m o Q E C) {s : σ} (hs : o.inv s)
    {labels : List (Label ι entry env)} (hmeets : Runs.Meets m.step C (init s) labels) :
    Outlined o Q E (Runs.exec m.step (init s) labels) := by
  refine Runs.exec_invariant (Outlined o Q E) (fun c lab hc hC => hc.step h hC) ?_ hmeets
  exact ⟨hs, fun _ _ ht => by simp [init] at ht, fun _ _ ht => by simp [init] at ht⟩

/-- A preorder that every request and the surroundings respect relates the shared states at the two ends
of a run. -/
theorem exec_shared {R : σ → σ → Prop} (hrefl : ∀ s, R s s)
    (htrans : ∀ {a b c}, R a b → R b c → R a c)
    (hperform : ∀ pid r i l s, R s (m.perform pid r i l s).2.2)
    (henvironment : ∀ e s, R s (m.environment e s)) (c : Config Req Resp ε α σ L)
    (labels : List (Label ι entry env)) : R c.shared (Runs.exec m.step c labels).shared := by
  refine Runs.exec_rel (C := fun _ _ => True)
    (R := fun c c' : Config Req Resp ε α σ L => R c.shared c'.shared) (fun c => hrefl c.shared)
    (fun {a b c} (h : R a.shared b.shared) (h' : R b.shared c.shared) => htrans h h')
    (fun _ _ (_ : True) _ => trivial) (fun c lab _ _ => ?_) trivial (Runs.meets_true labels)
  cases lab with
  | start pid e =>
      cases hpid : c.threads pid with
      | some t => simpa only [System.step, hpid] using hrefl c.shared
      | none => simpa only [System.step, hpid] using hrefl c.shared
  | crash pid => exact hrefl c.shared
  | environment e => exact henvironment e c.shared
  | run pid i =>
      cases hpid : c.threads pid with
      | none => simpa only [System.step, hpid] using hrefl c.shared
      | some t =>
          obtain ⟨l, code⟩ := t
          cases code with
          | ret a => simpa only [System.step, hpid] using hrefl c.shared
          | throw e => simpa only [System.step, hpid] using hrefl c.shared
          | req r k => simpa only [System.step, hpid] using hperform pid r i l c.shared

/-- **What programs know by themselves holds in every run.**  Where the local state of a thread
carries the memory of its program, every answered request fits that memory; so does an invariant of
the shared state that such steps keep. -/
theorem exec_wp {S : Type} {next : S → (r : Req) → Resp r → S} {φ : S → Req → Prop} (memory : L → S)
    (hmemory : ∀ pid r i l s,
      memory (m.perform pid r i l s).2.1 = next (memory l) r (m.perform pid r i l s).1)
    (hcode : ∀ e, (m.code e).wp next φ (fun _ _ => True) (fun _ _ => True) (memory m.loc))
    {I : σ → Prop}
    (hstep : ∀ pid r i l s, I s → φ (memory l) r → I (m.perform pid r i l s).2.2)
    (henvironment : ∀ e s, I s → I (m.environment e s)) {s : σ} (hs : I s)
    (labels : List (Label ι entry env)) : I (Runs.exec m.step (init s) labels).shared := by
  let Known (c : Config Req Resp ε α σ L) : Prop :=
    I c.shared ∧ ∀ pid t, c.threads pid = some t →
      t.code.wp next φ (fun _ _ => True) (fun _ _ => True) (memory t.loc)
  suffices h : Known (Runs.exec m.step (init s) labels) from h.1
  refine Runs.exec_invariant (C := fun _ _ => True) Known (fun c lab hc _ => ?_)
    ⟨hs, fun _ _ ht => by simp [init] at ht⟩ (Runs.meets_true labels)
  cases lab with
  | start pid e =>
      cases hpid : c.threads pid with
      | some t => simpa only [System.step, hpid] using hc
      | none =>
          simp only [System.step, hpid]
          refine ⟨hc.1, threads_update (fun t ht => ?_) fun q t _ => hc.2 q t⟩
          cases ht
          exact hcode e
  | crash pid =>
      exact ⟨hc.1, threads_update (fun t ht => by cases ht) fun q t _ => hc.2 q t⟩
  | environment e => exact ⟨henvironment e _ hc.1, hc.2⟩
  | run pid i =>
      cases hpid : c.threads pid with
      | none => simpa only [System.step, hpid] using hc
      | some t =>
          obtain ⟨l, code⟩ := t
          cases code with
          | ret a => simpa only [System.step, hpid] using hc
          | throw e => simpa only [System.step, hpid] using hc
          | req r k =>
              have hown : (Prog.req r k).wp next φ (fun _ _ => True) (fun _ _ => True) (memory l) :=
                hc.2 pid _ hpid
              simp only [System.step, hpid]
              refine ⟨hstep pid r i l c.shared hc.1 hown.1,
                threads_update (fun t ht => ?_) fun q t _ => hc.2 q t⟩
              cases ht
              rw [hmemory]
              exact hown.2 _

/-- **What threads have learned stays true.**  `K` relates the memory of a thread to the shared state,
under an invariant of that state, as long as the thread is live; a thread that can still issue a
request is.  Where the answer to a fitting request establishes it for the new memory, and no step of
anything breaks it for a memory that others have, every live thread of every run whose steps meet a
condition is right about the shared state; its next request fits what it knows, and so does its end. -/
theorem exec_known_meets {S : Type} {next : S → (r : Req) → Resp r → S} {φ : S → Req → Prop}
    {Q : α → S → Prop} {E : ε → S → Prop} (memory : L → S)
    (live : Prog Req Resp ε α → Prop) (hlive : ∀ r k, live (.req r k))
    (hmemory : ∀ pid r i l s,
      memory (m.perform pid r i l s).2.1 = next (memory l) r (m.perform pid r i l s).1)
    {I : σ → Prop} {K : ℕ → S → σ → Prop}
    (hcode : ∀ c pid e, C c (.start pid e) → (m.code e).wp next φ Q E (memory m.loc))
    (hinv : ∀ c pid i l r k, C c (.run pid i) → c.threads pid = some ⟨l, .req r k⟩ → I c.shared →
      K pid (memory l) c.shared → φ (memory l) r → I (m.perform pid r i l c.shared).2.2)
    (hinvEnvironment : ∀ c e, C c (.environment e) → I c.shared → I (m.environment e c.shared))
    (hstart : ∀ c pid e, C c (.start pid e) → I c.shared → K pid (memory m.loc) c.shared)
    (hown : ∀ c pid i l r k, C c (.run pid i) → c.threads pid = some ⟨l, .req r k⟩ → I c.shared →
      K pid (memory l) c.shared → φ (memory l) r →
      K pid (memory (m.perform pid r i l c.shared).2.1) (m.perform pid r i l c.shared).2.2)
    (hkeep : ∀ c pid i l r k pid' t, C c (.run pid i) → c.threads pid = some ⟨l, .req r k⟩ →
      c.threads pid' = some t → live t.code → pid' ≠ pid → I c.shared → φ (memory l) r →
      K pid' (memory t.loc) c.shared →
      K pid' (memory t.loc) (m.perform pid r i l c.shared).2.2)
    (henvironment : ∀ c e pid t, C c (.environment e) → c.threads pid = some t → live t.code →
      I c.shared → K pid (memory t.loc) c.shared →
      K pid (memory t.loc) (m.environment e c.shared)) {s : σ} (hs : I s)
    {labels : List (Label ι entry env)} (hmeets : Runs.Meets m.step C (init s) labels) :
    I (Runs.exec m.step (init s) labels).shared ∧
      ∀ pid t, (Runs.exec m.step (init s) labels).threads pid = some t →
        t.code.wp next φ Q E (memory t.loc) ∧ (live t.code →
          K pid (memory t.loc) (Runs.exec m.step (init s) labels).shared) := by
  let Known (c : Config Req Resp ε α σ L) : Prop := I c.shared ∧ ∀ pid t, c.threads pid = some t →
    t.code.wp next φ Q E (memory t.loc) ∧ (live t.code → K pid (memory t.loc) c.shared)
  refine Runs.exec_invariant Known (fun c lab hc hC => ?_)
    ⟨hs, fun _ _ ht => by simp [init] at ht⟩ hmeets
  obtain ⟨hshared, hthreads⟩ := hc
  cases lab with
  | start pid e =>
      cases hpid : c.threads pid with
      | some t =>
          simp only [System.step, hpid]
          exact ⟨hshared, hthreads⟩
      | none =>
          simp only [System.step, hpid]
          refine ⟨hshared, threads_update (fun t ht => ?_) fun q t _ => hthreads q t⟩
          cases ht
          exact ⟨hcode c pid e hC, fun _ => hstart c pid e hC hshared⟩
  | crash pid =>
      exact ⟨hshared, threads_update (fun t ht => by cases ht) fun q t _ => hthreads q t⟩
  | environment e =>
      exact ⟨hinvEnvironment c e hC hshared, fun q t ht => ⟨(hthreads q t ht).1, fun halive =>
        henvironment c e q t hC ht halive hshared ((hthreads q t ht).2 halive)⟩⟩
  | run pid i =>
      cases hpid : c.threads pid with
      | none =>
          simp only [System.step, hpid]
          exact ⟨hshared, hthreads⟩
      | some t =>
          obtain ⟨l, code⟩ := t
          cases code with
          | ret a =>
              simp only [System.step, hpid]
              exact ⟨hshared, hthreads⟩
          | throw e =>
              simp only [System.step, hpid]
              exact ⟨hshared, hthreads⟩
          | req r k =>
              obtain ⟨hwp, hknown⟩ := hthreads pid _ hpid
              have hknown := hknown (hlive r k)
              simp only [System.step, hpid]
              refine ⟨hinv c pid i l r k hC hpid hshared hknown hwp.1,
                threads_update (fun t ht => ?_) fun q t hne ht =>
                  ⟨(hthreads q t ht).1, fun halive => hkeep c pid i l r k q t hC hpid ht halive hne
                    hshared hwp.1 ((hthreads q t ht).2 halive)⟩⟩
              cases ht
              refine ⟨?_, fun _ => hown c pid i l r k hC hpid hshared hknown hwp.1⟩
              rw [hmemory]
              exact hwp.2 _

/-- In every run at all, where no step needs a condition. -/
theorem exec_known {S : Type} {next : S → (r : Req) → Resp r → S} {φ : S → Req → Prop}
    {Q : α → S → Prop} {E : ε → S → Prop} (memory : L → S)
    (hmemory : ∀ pid r i l s,
      memory (m.perform pid r i l s).2.1 = next (memory l) r (m.perform pid r i l s).1)
    (hcode : ∀ e, (m.code e).wp next φ Q E (memory m.loc))
    {I : σ → Prop} {K : S → σ → Prop}
    (hinv : ∀ pid r i l s, I s → K (memory l) s → φ (memory l) r → I (m.perform pid r i l s).2.2)
    (hinvEnvironment : ∀ e s, I s → I (m.environment e s))
    (hstart : ∀ s, I s → K (memory m.loc) s)
    (hown : ∀ pid r i l s, I s → K (memory l) s → φ (memory l) r →
      K (memory (m.perform pid r i l s).2.1) (m.perform pid r i l s).2.2)
    (hkeep : ∀ pid r i l s known, I s → φ (memory l) r → K known s →
      K known (m.perform pid r i l s).2.2)
    (henvironment : ∀ e s known, I s → K known s → K known (m.environment e s)) {s : σ} (hs : I s)
    (labels : List (Label ι entry env)) :
    I (Runs.exec m.step (init s) labels).shared ∧
      ∀ pid t, (Runs.exec m.step (init s) labels).threads pid = some t →
        t.code.wp next φ Q E (memory t.loc) ∧
          K (memory t.loc) (Runs.exec m.step (init s) labels).shared := by
  obtain ⟨hI, hthreads⟩ := exec_known_meets (C := fun _ _ => True) (K := fun _ => K) memory
    (fun _ => True) (fun _ _ => trivial) hmemory (fun _ _ e _ => hcode e)
    (fun c pid i l r _ _ _ hI hK hφ => hinv pid r i l c.shared hI hK hφ)
    (fun c e _ hI => hinvEnvironment e c.shared hI) (fun c _ _ _ hI => hstart c.shared hI)
    (fun c pid i l r _ _ _ hI hK hφ => hown pid r i l c.shared hI hK hφ)
    (fun c pid i l r _ _ _ _ _ _ _ _ hI hφ hK => hkeep pid r i l c.shared _ hI hφ hK)
    (fun c e _ _ _ _ _ hI hK => henvironment e c.shared _ hI hK) hs (Runs.meets_true labels)
  exact ⟨hI, fun pid t ht => ⟨(hthreads pid t ht).1, (hthreads pid t ht).2 trivial⟩⟩

end System

end Threads

end Programs
