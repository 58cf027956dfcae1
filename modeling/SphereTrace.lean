import SphereTrace.Main
import SphereTrace.Proofs.Fragment.Constants
import SphereTrace.Proofs.Fragment.Fingerprinting
import SphereTrace.Proofs.Fragment.SceneExpression
import SphereTrace.Proofs.Fragment.Sections
import SphereTrace.Proofs.Fragment.Stability
import SphereTrace.Proofs.Glsl.ReadingBack
import SphereTrace.Proofs.March.Blending
import SphereTrace.Proofs.March.Clearance
import SphereTrace.Proofs.March.Packing
import SphereTrace.Proofs.March.Shading
import SphereTrace.Proofs.Texture.Assigning
import SphereTrace.Proofs.Texture.BulkLoading
import SphereTrace.Proofs.Texture.Defaults
import SphereTrace.Proofs.Texture.Indexing
import SphereTrace.Proofs.Texture.Synchronisation
import SphereTrace.Proofs.Texture.Typing
import SphereTrace.Proofs.Uniform.History
import SphereTrace.Proofs.Uniform.Scanning
import SphereTrace.Proofs.Fragment.Counting
