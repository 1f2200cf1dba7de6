import Http1Client.Client
import Http1Client.MediaType.Printer
import Http1Client.Promise.EventLoop
import Http1Client.Proofs.Exchange.End
import Http1Client.Proofs.Request.Prepared
import Http1Client.Proofs.Text.Spelling
import Http1Client.Proofs.Response.Numbers
import Http1Client.Proofs.Request.Reading
import Http1Client.Proofs.Response.Receiving
import Http1Client.Proofs.Exchange.Limit
import Http1Client.Proofs.Response.Session
import Http1Client.Proofs.Exchange.Interim
import Http1Client.Proofs.Exchange.Course
import Http1Client.Proofs.Lifetime.Queues
import Http1Client.Proofs.Lifetime.Leases
import Http1Client.Proofs.Lifetime.Ledger
import Http1Client.Proofs.Exchange.Cause
import Http1Client.Proofs.Promise.Interleaving
import Http1Client.Proofs.Exchange.Fields
import Http1Client.Proofs.Lifetime.Accounts
import Http1Client.Proofs.Exchange.Alike
import Http1Client.Proofs.Exchange.Silence
import Http1Client.Proofs.Response.Overlong
import Http1Client.Proofs.Exchange.Codings
import Http1Client.Proofs.Request.Completed
import Http1Client.Proofs.Response.Layout
import Http1Client.Proofs.Response.Accounting
import Http1Client.Proofs.Headers.Multimap
import Http1Client.Proofs.MediaType.Listing
import Http1Client.Proofs.MediaType.Positions
import Http1Client.Proofs.Request.Repeated
import Http1Client.Proofs.Lifetime.Handles
import Http1Client.Proofs.Exchange.ContentType
import Http1Client.Proofs.Response.Rest
import Http1Client.Proofs.Response.Lines
import Http1Client.Proofs.Exchange.Rest
import Http1Client.Proofs.Url.Addresses
import Http1Client.Proofs.Request.Site
