import Stencil.Proofs.Building
import Stencil.Proofs.Clocks
import Stencil.Proofs.DateOnly
import Stencil.Proofs.Dependence
import Stencil.Proofs.Inlining
import Stencil.Proofs.Innermost
import Stencil.Proofs.Iteration
import Stencil.Proofs.Layering
import Stencil.Proofs.Leniency
import Stencil.Proofs.Naming
import Stencil.Proofs.NumberText
import Stencil.Proofs.Ordering
import Stencil.Proofs.Passage
import Stencil.Proofs.PathText
import Stencil.Proofs.Refusal
import Stencil.Proofs.Renaming
import Stencil.Proofs.Rescanning
import Stencil.Proofs.Sameness
import Stencil.Proofs.TitleCase
import Stencil.Proofs.Truncation
import Stencil.Proofs.Verdicts
import Stencil.Proofs.Weeks
