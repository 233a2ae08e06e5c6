import CallFwd.Lib.Stream
import CallFwd.Lib.KeyMap
import CallFwd.Lib.Blocks
import CallFwd.Lib.Decimal
import CallFwd.Lib.StableSort
import CallFwd.Lib.Reader
import CallFwd.Runtime
import CallFwd.Dynamic
import CallFwd.StringPiece
import CallFwd.Lib.Threaded
import CallFwd.PhoneMapping.Data
import CallFwd.PhoneMapping.Index
import CallFwd.PhoneMapping.Cursor
import CallFwd.PhoneMapping.Inverse
import CallFwd.PhoneMapping.Rows
import CallFwd.PhoneMapping.Number
import CallFwd.PhoneMapping.Batch
import CallFwd.Tables.Csv
import CallFwd.Tables.Numbers
import CallFwd.Tables.Records
import CallFwd.Tables.Lerg
import CallFwd.Tables.Columns
import CallFwd.Tables.Keys
import CallFwd.Tables.Acl
import CallFwd.Tables.AclRows
import CallFwd.Control.Load
import CallFwd.Control.LoadMapping
import CallFwd.Control.Dump
import CallFwd.Control.Verify
import CallFwd.Control.Dno
import CallFwd.Control.Dispatch
import CallFwd.Control.Entries
import CallFwd.Control.Runs
import CallFwd.Control.Socket
import CallFwd.Daemon.Handlers
import CallFwd.Daemon.Reload
import CallFwd.Daemon.Interleaving
import CallFwd.Daemon.Ledger
import CallFwd.Daemon.Commands
import CallFwd.Http.Message
import CallFwd.Http.Reverse
import CallFwd.Http.Target
import CallFwd.Http.Record
import CallFwd.Http.Exchange
import CallFwd.AccessLog
import CallFwd.Sip.Handler
import CallFwd.Sip.Contact
import CallFwd.Daemon.Answers
import CallFwd.Daemon.Freshness
import CallFwd.Daemon.Maintenance
import CallFwd.Sip.ParseUri
import CallFwd.Sip.UriScan
import CallFwd.Sip.UriShape
import CallFwd.Sip.UriText
import CallFwd.Sip.UriAccept
import CallFwd.Sip.Redirect
import CallFwd.Sip.FirstLine
import CallFwd.Sip.Datagram
import CallFwd.Lib.Run
import CallFwd.Lib.Slice
import CallFwd.Lib.Json
import CallFwd.Lib.Base64
import CallFwd.Stir.Types
import CallFwd.Stir.Passport
import CallFwd.Stir.Stages
import CallFwd.Stir.Payload
import CallFwd.Stir.RoundTrip
import CallFwd.Stir.Soundness
import CallFwd.Stir.Form
import CallFwd.Stir.Errors
import CallFwd.Stir.FromJson
import CallFwd.Stir.Escapes
import CallFwd.Stir.Handler
import CallFwd.Daemon.Repeat
import CallFwd.Ctl.Client
import CallFwd.Ctl.Deployment
import CallFwd.Ctl.Restart
