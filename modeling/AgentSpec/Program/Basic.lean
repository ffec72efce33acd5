import AgentSpec.Assistant.Request
import AgentSpec.Compile.Error
import AgentSpec.Program.Milestone
import AgentSpec.Store.Call

/-!
Programs: what a run asks of the store and of the assistant, as data.

A strand asks one thing after the other.  A program does so too, and it may also start several
strands and wait until all of them are done; the first one that fails ends the program.  Nothing is
said here about who answers, nor in which order strands that run together take their turns.
-/
namespace AgentSpec

inductive Strand (α : Type)
  | done (a : α)
  | failed (e : CompileError)
  | store (c : StoreCall) (k : c.Reply → Strand α)
  | code (r : CodeRequest) (k : Except AssistantError GeneratedCode → Strand α)

namespace Strand

def bind : Strand α → (α → Strand β) → Strand β
  | .done a, f => f a
  | .failed e, _ => .failed e
  | .store c k, f => .store c fun r => (k r).bind f
  | .code r k, f => .code r fun a => (k a).bind f

instance : Monad Strand where
  pure := .done
  bind := .bind

/-- A call to the store whose failure ends the strand. -/
def ask (phase : Phase) (c : StoreCall) : Strand c.Value :=
  .store c fun
    | .ok v => .done v
    | .error e => .failed (.persistence phase e)

end Strand

inductive Program (α : Type) : Type 1
  | done (a : α)
  | failed (e : CompileError)
  | store (c : StoreCall) (k : c.Reply → Program α)
  | design (r : SynthesisRequest) (k : Except AssistantError Json → Program α)
  | announce (m : Milestone) (k : Program α)
  | together {β : Type} (strands : List (Strand β)) (k : List β → Program α)

namespace Program

def bind : Program α → (α → Program β) → Program β
  | .done a, f => f a
  | .failed e, _ => .failed e
  | .store c k, f => .store c fun r => (k r).bind f
  | .design r k, f => .design r fun a => (k a).bind f
  | .announce m k, f => .announce m (k.bind f)
  | .together strands k, f => .together strands fun bs => (k bs).bind f

instance : Monad Program where
  pure := .done
  bind := .bind

/-- A call to the store whose failure ends the program. -/
def ask (phase : Phase) (c : StoreCall) : Program c.Value :=
  .store c fun
    | .ok v => .done v
    | .error e => .failed (.persistence phase e)

/-- A result that may be an error. -/
def ofExcept : Except CompileError α → Program α
  | .ok a => .done a
  | .error e => .failed e

def tell (m : Milestone) : Program Unit := .announce m (.done ())

/-- The results of strands that run together. -/
def all (strands : List (Strand β)) : Program (List β) := .together strands .done

end Program
end AgentSpec
