import StyleUsage.Proofs.Collection.Entries
import StyleUsage.Proofs.Command.Run
import StyleUsage.Proofs.Datum.Rendered
import StyleUsage.Proofs.Digest.Sha256
import StyleUsage.Proofs.File.Tree
import StyleUsage.Proofs.Summary.Canonical
import StyleUsage.Proofs.Text.Coding

/-!
# What an analysis leaves behind

The text of an analysis is made in stages that neither print nor write: the file is read, the walk
script in it is read and replayed, and its summary is rendered (`renderWalk`). If a stage fails, the
run ends with its failure and nothing has happened. Otherwise the text goes to one place, the output
or a file, and to no other (`analyze_outcome`). The digest that is shown is the one that the command
for it prints. All this holds for any reader and any writer of YAML, and for any console that does
what is documented of consoles.
-/

namespace StyleUsage.Command

open Run

variable {L : Libraries} {t : FileTree} {T T' : Transcript}

/-! ## Stages -/

end StyleUsage.Command
