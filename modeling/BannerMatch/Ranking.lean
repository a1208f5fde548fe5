import BannerMatch.Service

/-!
# Ranking

Services are ranked by falling confidence; those of equal confidence keep their order.
-/

namespace BannerMatch

/-- Whether a service may stand before another one. -/
def Service.ranksBefore (a b : Service) : Bool := b.confidence ≤ a.confidence

/-- The services by falling confidence. -/
def rank (services : List Service) : List Service := services.mergeSort Service.ranksBefore

/-- The services with at least the given confidence. -/
def atLeast (confidence : UInt8) (services : List Service) : List Service :=
  services.filter fun s => confidence ≤ s.confidence

end BannerMatch
