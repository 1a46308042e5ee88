import InlineDice.Proofs.CommandOperands
import InlineDice.Proofs.HonestRolls
import InlineDice.Proofs.JoinedTokens
import InlineDice.Proofs.PipelineRolls

namespace InlineDice

open Notation

namespace Pipeline

end Pipeline

namespace CommandLine

variable {σ : Type} [RandomSource σ]

end CommandLine

end InlineDice
