import Stencil.Files.Write
import Stencil.Main
import Stencil.Template.Memory
import Stencil.Template.Origin
import Stencil.Proofs.Markup.RoundTrip
import Stencil.Proofs.Render.History
import Stencil.Proofs.Render.Scope
import Stencil.Proofs.Expression.Data
import Stencil.Proofs.Render.Accord
import Stencil.Proofs.Render.OnData
import Stencil.Proofs.Render.InStep
import Stencil.Proofs.Render.DataOnly
import Stencil.Proofs.Render.DirectiveFree
import Stencil.Proofs.Render.Inlining
import Stencil.Proofs.Template.FetchesOnce
import Stencil.Proofs.Render.Calls
import Stencil.Proofs.Render.Depth
import Stencil.Proofs.Markup.Canonical
import Stencil.Proofs.Markup.Image
import Stencil.Proofs.Render.Chain
import Stencil.Proofs.Template.Stability
import Stencil.Proofs.Render.Absence
import Stencil.Proofs.Render.Product
import Stencil.Proofs.Render.Injection
import Stencil.Proofs.Expression.Interpolation
import Stencil.Proofs.Expression.Composition
import Stencil.Proofs.Markup.Building
import Stencil.Proofs.Render.Overlay
import Stencil.Proofs.Render.Removal
import Stencil.Proofs.Render.Addressing
import Stencil.Proofs.Render.Wrapping
import Stencil.Proofs.Files.Containment
import Stencil.Proofs.Template.Outermost
import Stencil.Proofs.Expression.Dataset
import Stencil.Proofs.Markup.FirstEndTag
import Stencil.Proofs.Expression.Entries
import Stencil.Proofs.Render.Static
