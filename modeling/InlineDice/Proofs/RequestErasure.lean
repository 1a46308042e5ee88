import InlineDice.Proofs.RequestAnswers
import InlineDice.Proofs.SharedPipeline

namespace InlineDice.Web

section

variable {σ α : Type}

variable {β : Type} [RandomSource σ]

end

section

variable {σ α β : Type}

variable [RandomSource σ] {reader : Reader β} {p : Pipeline} {environment : Text}
  {request : Request β} {source : σ}

end

end InlineDice.Web
