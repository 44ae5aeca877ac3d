import ShellPipeline.Pipeline.Basic
import ShellPipeline.Text.Json

/-!
# Pipelines as JSON

A pipeline is explained as an array of stages. A stage has its words, its input file or null, and
its output; the output is tagged by its mode and carries a path only if it goes into a file.
-/

namespace ShellPipeline

def WriteMode.tag : WriteMode → String
  | truncate => "truncate"
  | append => "append"

def Output.tag : Output → String
  | inherit => "inherit"
  | pipe => "pipe"
  | file mode _ => mode.tag

def Output.toJson (o : Output) : Json :=
  .object (("mode", .text o.tag) :: (o.target?.map fun path => ("path", Json.text path)).toList)

def Stage.toJson (s : Stage) : Json :=
  .object
    [("argv", .list (s.argv.map .text)),
      ("input", s.input.elim .null .text),
      ("output", s.output.toJson)]

def Pipeline.toJson (p : Pipeline) : Json :=
  .list (p.stages.map Stage.toJson)

def Pipeline.explain (p : Pipeline) : String :=
  p.toJson.pretty

end ShellPipeline
