import ComputeDirectory.Service.Handler
import ComputeDirectory.Service.Maintenance
import ComputeDirectory.Proofs.Identity.Acceptance
import ComputeDirectory.Proofs.Identity.Event
import ComputeDirectory.Proofs.Identity.Finality
import ComputeDirectory.Proofs.Identity.Issuance
import ComputeDirectory.Proofs.Identity.KeySafety
import ComputeDirectory.Proofs.Identity.Lifetime
import ComputeDirectory.Proofs.Identity.Occupancy
import ComputeDirectory.Proofs.Identity.Outlook
import ComputeDirectory.Proofs.Identity.Reclamation
import ComputeDirectory.Proofs.Identity.Settlement
import ComputeDirectory.Proofs.Identity.Soundness
import ComputeDirectory.Proofs.Identity.Sweeping
import ComputeDirectory.Proofs.Identity.Verification
import ComputeDirectory.Proofs.Registry.Comparison
import ComputeDirectory.Proofs.Registry.Explanation
import ComputeDirectory.Proofs.Registry.Independence
import ComputeDirectory.Proofs.Registry.Interchange
import ComputeDirectory.Proofs.Registry.Pages
import ComputeDirectory.Proofs.Registry.Range
import ComputeDirectory.Proofs.Registry.Silence
import ComputeDirectory.Proofs.Service.Endurance
import ComputeDirectory.Proofs.Service.Health
import ComputeDirectory.Proofs.Service.Refusal
import ComputeDirectory.Proofs.Table.Storage
