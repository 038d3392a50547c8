import Kerber.Admin.Equiv.Connection
import Kerber.Admin.Equiv.Getdate
import Kerber.Gss.Equiv.Export
import Kerber.Gss.Equiv.SeqState
import Kerber.Issue.Equiv.Cookie
import Kerber.Issue.Equiv.Exchanges
import Kerber.Issue.Equiv.Fast
import Kerber.Issue.Equiv.Logon
import Kerber.Issue.Equiv.Pkinit
import Kerber.Issue.Equiv.Transit
import Kerber.KdbDump.Equiv.Damage
import Kerber.KdbDump.Equiv.Truncate
import Kerber.Kdc.Equiv.DbLock
import Kerber.Kdc.Equiv.Lockout
import Kerber.Kdc.Equiv.Lookaside
import Kerber.Kdc.Equiv.SharedSideFile
import Kerber.Kprop.Equiv.RecvDatabase
import Kerber.Protocol.Equiv.ApReq
import Kerber.Protocol.Equiv.AuthCon
import Kerber.Store.Equiv.Osa
import Kerber.Store.Equiv.Rekey
import Kerber.Store.Equiv.Rename
import Kerber.Store.Equiv.Undo
import Kerber.Store.Equiv.Walk
import Kerber.Types.Equiv.DerWalk
import Kerber.Types.Equiv.Generaltime
import Kerber.Types.Equiv.RealmWalk
import Kerber.Ulog.Equiv.Crash
import Kerber.Ulog.Equiv.Resize
