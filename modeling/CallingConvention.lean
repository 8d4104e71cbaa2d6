import CallingConvention.Call
import CallingConvention.Proofs.Acceptance
import CallingConvention.Session.Run
import CallingConvention.Proofs.Typing
import CallingConvention.Proofs.HandleProtocol
import CallingConvention.Proofs.Counting
import CallingConvention.Proofs.FrameOwners
import CallingConvention.Proofs.Custody
import CallingConvention.Proofs.Lifetime
import CallingConvention.Proofs.Ending
import CallingConvention.Proofs.ReturnedHandle
import CallingConvention.Proofs.Conversion
import CallingConvention.Proofs.Refusal
import CallingConvention.Proofs.Exception
import CallingConvention.Proofs.Registration
import CallingConvention.Proofs.BorrowedReturn
import CallingConvention.Proofs.ReturnHistory
import CallingConvention.Proofs.Ledger
import CallingConvention.Proofs.ReturnedInstance
import CallingConvention.Proofs.Holdings
import CallingConvention.Proofs.LastWrite
import CallingConvention.Proofs.OutputOwner
import CallingConvention.Proofs.Truth
import CallingConvention.Proofs.Residue
import CallingConvention.Proofs.Isolation
import CallingConvention.Proofs.PolicyText
import CallingConvention.Proofs.BlockLayout
