import GatewayAgent.Host.FileSystem

/-!
# Programs on files

A `FileProgram` works on files by requests to a file system only, one after the other, and goes on
with the answer to each. It can be run on a file system (`FileProgram.run`); what it touches can be
told without one, whatever the answers are (`FileProgram.Touches`).
-/

namespace GatewayAgent

/-- A request to a file system. -/
inductive FileRequest where
  | tryExists (path : String)
  | copy (source target : String)
  | write (path : String) (content : Bytes)
  | rename (source target : String)

namespace FileRequest

/-- What the answer to a request tells, unless it is an error. -/
@[reducible]
def Answer : FileRequest → Type
  | .tryExists _ => Bool
  | .copy .. | .write .. | .rename .. => Unit

/-- The paths that a request names. -/
def paths : FileRequest → List String
  | .tryExists path => [path]
  | .copy source target => [source, target]
  | .write path _ => [path]
  | .rename source target => [source, target]

/-- A change that succeeds is made, and one that fails is not. -/
def settle (fs : FileSystem) : Except SystemError FileSystem → FileSystem × Except SystemError Unit
  | .ok fs' => (fs', .ok ())
  | .error e => (fs, .error e)

/-- What a file system makes of a request: what becomes of it, and its answer. -/
def serve (fs : FileSystem) : (request : FileRequest) →
    FileSystem × Except SystemError request.Answer
  | .tryExists path => (fs, fs.tryExists path)
  | .copy source target => settle fs (fs.copy source target)
  | .write path content => settle fs (fs.write path content)
  | .rename source target => settle fs (fs.rename source target)

end FileRequest

/-- A program that works on files by requests to a file system. -/
inductive FileProgram (α : Type) where
  /-- The program is done. -/
  | done (value : α)
  /-- The program makes a request, and goes on with the answer. -/
  | ask (request : FileRequest) (next : Except SystemError request.Answer → FileProgram α)

namespace FileProgram

variable {α β : Type}

/-- Runs a program on a file system. -/
def run (fs : FileSystem) : FileProgram α → FileSystem × α
  | .done value => (fs, value)
  | .ask request next => (next (request.serve fs).2).run (request.serve fs).1

/-- The program with a function of its value. -/
def map (f : α → β) : FileProgram α → FileProgram β
  | .done value => .done (f value)
  | .ask request next => .ask request fun answer => (next answer).map f

/-- The program may touch a path: it may come to a request that names the path, if the answers to
the requests before it are such. -/
inductive Touches : FileProgram α → String → Prop
  | here {request : FileRequest} {next : Except SystemError request.Answer → FileProgram α}
      {path : String} (h : path ∈ request.paths) : Touches (.ask request next) path
  | later {request : FileRequest} {next : Except SystemError request.Answer → FileProgram α}
      {path : String} (answer : Except SystemError request.Answer)
      (h : Touches (next answer) path) : Touches (.ask request next) path

variable {program : FileProgram α} {path : String}

@[simp]
theorem not_touches_done (value : α) (path : String) : ¬(done value).Touches path := by
  rintro ⟨⟩

theorem touches_ask_iff {request : FileRequest}
    {next : Except SystemError request.Answer → FileProgram α} :
    (ask request next).Touches path ↔
      path ∈ request.paths ∨ ∃ answer, (next answer).Touches path := by
  constructor
  · rintro (h | ⟨answer, h⟩)
    · exact .inl h
    · exact .inr ⟨answer, h⟩
  · rintro (h | ⟨answer, h⟩)
    · exact .here h
    · exact .later answer h

theorem run_map (f : α → β) (fs : FileSystem) (program : FileProgram α) :
    (program.map f).run fs = ((program.run fs).1, f (program.run fs).2) := by
  induction program generalizing fs with
  | done value => rfl
  | ask request next ih => exact ih _ _

theorem touches_map_iff (f : α → β) : (program.map f).Touches path ↔ program.Touches path := by
  induction program with
  | done value => exact iff_of_false (not_touches_done _ _) (not_touches_done _ _)
  | ask request next ih =>
    rw [map, touches_ask_iff, touches_ask_iff]
    exact or_congr Iff.rfl (exists_congr ih)

end FileProgram

end GatewayAgent
