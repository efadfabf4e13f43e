import PathRouter.Service.Basic
import PathRouter.Proofs.Pattern.Anchoring
import PathRouter.Proofs.Pattern.Blame
import PathRouter.Proofs.Pattern.ByteScan
import PathRouter.Proofs.Dispatch.Correspondence
import PathRouter.Proofs.Dispatch.Mounting
import PathRouter.Proofs.Router.Conflict
import PathRouter.Proofs.Router.Events
import PathRouter.Proofs.Router.Order
import PathRouter.Proofs.Router.Reachability
import PathRouter.Proofs.Service.Log
import PathRouter.Proofs.Router.Overlay
import PathRouter.Proofs.Params.Cursor
import PathRouter.Proofs.Text.Length
import PathRouter.Proofs.Text.Verbatim
import PathRouter.Proofs.Regex.Parentheses
import PathRouter.Proofs.Router.Parenthesized
