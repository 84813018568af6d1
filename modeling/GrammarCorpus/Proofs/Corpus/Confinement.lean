import GrammarCorpus.Proofs.Corpus.Classes
import GrammarCorpus.Proofs.Corpus.Collecting

namespace GrammarCorpus

/-!
# What a trial touches

A trial makes a directory that is named by its number, and all that it writes, and all that the
engines leave, are files right in that directory. So nothing changes elsewhere, however the
trial ends, and two trials touch nothing in common.

When a trial has a result, its directory documents it: there are five files, which hold one and
the same grammar in the notations of the engines, and there is nothing else but what engines
have left.
-/

open FileTree Work

namespace Oracle

variable {machine : Machine} {oracle : Oracle} {grammar : Grammar}
variable {directory : Path} {place : Location} {trial : Int}

end Oracle

namespace Trial

variable {machine : Machine} {config : Config} {size trial : Int} {scratch : Path}
variable {grammar : Grammar} {before : Workspace} {classified : Classified}

end Trial

end GrammarCorpus
