import CloudLookup.Describe.Call
import CloudLookup.Error
import CloudLookup.Json.Basic

/-! Lookups: what is asked of a provider, one question after another, until there is an outcome. -/
namespace CloudLookup

inductive Level where
  | error
  | warn
  | info
  | debug
  | trace
  deriving DecidableEq, Repr

def Level.name : Level → String
  | error => "ERROR"
  | warn => "WARN"
  | info => "INFO"
  | debug => "DEBUG"
  | trace => "TRACE"

structure LogLine where
  level : Level
  text : String
  deriving DecidableEq, Repr

def LogLine.render (l : LogLine) : String := s!"{l.level.name} {l.text}"

/-- A lookup that ends with a value or an error. The answer to a question decides how it goes on. -/
inductive Lookup (ε α : Type) where
  | done (outcome : Except ε α)
  | note (line : LogLine) (rest : Lookup ε α)
  | ask (question : Question) (next : Except Failure Json → Lookup ε α)

namespace Lookup

def andThen : Lookup ε α → (Except ε α → Lookup δ β) → Lookup δ β
  | done outcome, f => f outcome
  | note line rest, f => note line (rest.andThen f)
  | ask question next, f => ask question fun answer => (next answer).andThen f

instance : Monad (Lookup ε) where
  pure a := done (.ok a)
  bind l f := l.andThen fun
    | .ok a => f a
    | .error e => done (.error e)

def fail (e : ε) : Lookup ε α := done (.error e)

def debug (text : String) : Lookup ε Unit := note ⟨.debug, text⟩ (pure ())

def mapError (f : ε → δ) (l : Lookup ε α) : Lookup δ α :=
  l.andThen fun outcome => done (outcome.mapError f)

end Lookup

structure Answer (σ : Type) where
  outcome : Except Failure Json
  log : List LogLine
  state : σ

/-- Answers questions. What was asked before counts through the state. -/
structure Provider (σ : Type) where
  answer : σ → Question → Answer σ

def Provider.fixed (answer : Question → Except Failure Json) : Provider Unit :=
  ⟨fun _ q => ⟨answer q, [], ()⟩⟩

structure Run (ε α σ : Type) where
  outcome : Except ε α
  asked : List Question
  log : List LogLine
  state : σ

def Lookup.run (provider : Provider σ) : Lookup ε α → σ → Run ε α σ
  | done outcome, state => ⟨outcome, [], [], state⟩
  | note line rest, state =>
    let run := rest.run provider state
    { run with log := line :: run.log }
  | ask question next, state =>
    let answer := provider.answer state question
    let run := (next answer.outcome).run provider answer.state
    { run with asked := question :: run.asked, log := answer.log ++ run.log }

end CloudLookup
