import TableScript.Main
import TableScript.Proofs.Binary64
import TableScript.Proofs.Number
import TableScript.Proofs.Key
import TableScript.Proofs.Dict
import TableScript.Proofs.Value.Pairs
import TableScript.Proofs.Value.Equality
import TableScript.Proofs.Value.Extensional
import TableScript.Proofs.Token.Coverage
import TableScript.Proofs.Syntax.Completeness
import TableScript.Proofs.Syntax.Printing
import TableScript.Proofs.Syntax.RoundTrip
import TableScript.Proofs.Syntax.CorrectPrefix
import TableScript.Proofs.Syntax.Streaming
import TableScript.Proofs.Session.Names
import TableScript.Proofs.Value.Document
import TableScript.Proofs.Session.FailedCall
import TableScript.Proofs.Session.TableCalls
import TableScript.Proofs.Value.Exact
import TableScript.Proofs.Value.Order
import TableScript.Proofs.Token.Layout
import TableScript.Proofs.Syntax.Layout
import TableScript.Proofs.Session.Joined
import TableScript.Proofs.Service.Percent
import TableScript.Proofs.Service.Decoding
import TableScript.Proofs.Session.Reached
import TableScript.Proofs.Session.TableRoute
import TableScript.Proofs.Syntax.Spacing
import TableScript.Proofs.Token.Slices
import TableScript.Proofs.Token.Literal
import TableScript.Proofs.Token.Settling
import TableScript.Proofs.Session.TwoWay
import TableScript.Proofs.Session.Chained
import TableScript.Proofs.Session.CallOrder
import TableScript.Proofs.Value.Literal
import TableScript.Proofs.Syntax.EndOfInput
import TableScript.Proofs.Value.Sequence
import TableScript.Proofs.Binary64.Overflow
import TableScript.Proofs.Value.Failure
import TableScript.Proofs.Storage.Statement
