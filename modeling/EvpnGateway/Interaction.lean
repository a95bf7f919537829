/-!
# Interactions

A computation that asks its surroundings questions and goes on with the answers. What it asks is
laid open, so one computation can be run against any surroundings, be compared between two of them,
or be carried over to questions of another kind.

* `Interaction`: the computations, a monad; `ask`: one question;
* `run`: a run against a handler, with the questions in the order they were asked; `run_bind`: two
  runs in a row;
* `translate`: every question replaced by an interaction that finds its answer.
-/

namespace EvpnGateway

/-- A computation with a result in `α` that may ask questions in `Q`; the answer to a question `q`
lies in `A q`. -/
inductive Interaction (Q : Type) (A : Q → Type) (α : Type) where
  | done (result : α)
  | ask (question : Q) (next : A question → Interaction Q A α)

namespace Interaction

variable {Q : Type} {A : Q → Type} {α β : Type}

/-- Goes on with the result of an interaction. -/
def bind : Interaction Q A α → (α → Interaction Q A β) → Interaction Q A β
  | done result, f => f result
  | ask question next, f => ask question fun answer => (next answer).bind f

instance : Monad (Interaction Q A) where
  pure := done
  bind := bind

@[simp] theorem pure_eq (result : α) : (pure result : Interaction Q A α) = done result := rfl

@[simp] theorem done_bind (result : α) (f : α → Interaction Q A β) :
    (done result >>= f) = f result := rfl

@[simp] theorem ask_bind (question : Q) (next : A question → Interaction Q A α)
    (f : α → Interaction Q A β) :
    (ask question next >>= f) = ask question fun answer => next answer >>= f := rfl

theorem bind_assoc {γ : Type} (interaction : Interaction Q A α) (f : α → Interaction Q A β)
    (g : β → Interaction Q A γ) :
    (interaction >>= f >>= g) = (interaction >>= fun result => f result >>= g) := by
  induction interaction with
  | done result => rfl
  | ask question next ih => exact congrArg (ask question) (funext ih)

/-- The answer to one question. -/
def perform (question : Q) : Interaction Q A (A question) := ask question done

/-- Surroundings with a state: they answer each question and may change. -/
abbrev Handler (Q : Type) (A : Q → Type) (σ : Type) := (question : Q) → σ → A question × σ

/-- What a run comes to: the result, the questions asked, and the state of the surroundings. -/
structure Outcome (Q α σ : Type) where
  result : α
  asked : List Q
  state : σ

/-- Runs an interaction against a handler. -/
def run {σ : Type} (handler : Handler Q A σ) : Interaction Q A α → σ → Outcome Q α σ
  | done result, state => ⟨result, [], state⟩
  | ask question next, state =>
    let (answer, state) := handler question state
    let rest := (next answer).run handler state
    { rest with asked := question :: rest.asked }

theorem run_bind {σ : Type} (handler : Handler Q A σ) (interaction : Interaction Q A α)
    (next : α → Interaction Q A β) (state : σ) :
    (interaction >>= next).run handler state =
      let first := interaction.run handler state
      let second := (next first.result).run handler first.state
      { second with asked := first.asked ++ second.asked } := by
  induction interaction generalizing state with
  | done result => rfl
  | ask question rest ih => simp only [ask_bind, run, ih, List.cons_append]

/-- Replaces every question by an interaction that finds its answer. -/
def translate {Q' : Type} {A' : Q' → Type} (f : (question : Q) → Interaction Q' A' (A question)) :
    Interaction Q A α → Interaction Q' A' α
  | done result => done result
  | ask question next => (f question).bind fun answer => (next answer).translate f

end Interaction

end EvpnGateway
