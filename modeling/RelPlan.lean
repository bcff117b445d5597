import RelPlan.Main
import RelPlan.Plan.Path
import RelPlan.Proofs.Catalogue.Faults
import RelPlan.Proofs.Catalogue.History
import RelPlan.Proofs.Catalogue.RoundTrip
import RelPlan.Proofs.Estimate.Bounds
import RelPlan.Proofs.Estimate.Failure
import RelPlan.Proofs.Estimate.Monotone
import RelPlan.Proofs.Estimate.Unjoined
import RelPlan.Proofs.Json.Normal
import RelPlan.Proofs.Optimise.Bookkeeping
import RelPlan.Proofs.Optimise.ColumnOrder
import RelPlan.Proofs.Optimise.Erasure
import RelPlan.Proofs.Optimise.Frugal
import RelPlan.Proofs.Optimise.Greedy
import RelPlan.Proofs.Optimise.InPlace
import RelPlan.Proofs.Optimise.Leftovers
import RelPlan.Proofs.Optimise.Orientation
import RelPlan.Proofs.Optimise.SideProjections
import RelPlan.Proofs.Optimise.Stability
import RelPlan.Proofs.Optimise.Uncounted
import RelPlan.Proofs.Plan.Annotated
import RelPlan.Proofs.Plan.Compact
import RelPlan.Proofs.Query.Equality
import RelPlan.Proofs.Query.Explanation
import RelPlan.Proofs.Query.Location
import RelPlan.Proofs.Query.Plain
import RelPlan.Proofs.Query.Report
import RelPlan.Proofs.Query.Resolution
import RelPlan.Query.Grammar
